import FrontDoor.Payload
import FrontDoor.Json.Record

namespace FrontDoor

open Json.Reader

def Uuid.reading (s : String) : Except String Uuid :=
  match Uuid.parse s with
  | .ok u => .ok u
  | .error fault => .error ("UUID parsing failed: " ++ fault.message)

def Time.Timestamp.reading (s : String) : Except String Time.Timestamp :=
  match Time.Timestamp.parse s with
  | .ok t => .ok t
  | .error fault => .error fault.message

namespace Payload

structure Partial where
  data : Option (Dict Json) := none
  actor : Option (Option Uuid) := none
  timestamp : Option Time.Timestamp := none

def fields (depth : Nat) : List (RecordField Partial) := [
  { name := "data"
    isSet := fun p ↦ p.data.isSome
    read := fun p ↦ return { p with data := some (← dict depth) } },
  { name := "actor_id"
    isSet := fun p ↦ p.actor.isSome
    read := fun p ↦ do
      let actor ← optional (stringValue "a formatted UUID string" Uuid.reading)
      return { p with actor := some actor } },
  { name := "timestamp"
    isSet := fun p ↦ p.timestamp.isSome
    read := fun p ↦ do
      let t ← stringValue "an RFC 3339 formatted date and time string" Time.Timestamp.reading
      return { p with timestamp := some t } }]

def Partial.finish (p : Partial) : Except String Payload :=
  match p.data, p.timestamp with
  | none, _ => .error "missing field `data`"
  | some _, none => .error "missing field `timestamp`"
  | some data, some timestamp => .ok ⟨data, p.actor.join, timestamp⟩

def parse (text : String) : Except Json.Problem Payload :=
  (record "HookPayload" maxDepth (fields (maxDepth - 1)) ({} : Partial) Partial.finish).run text

end Payload

end FrontDoor
