import FrontDoor.Effect
import FrontDoor.Json.Reader

namespace FrontDoor

structure Payload where
  data : Dict Json
  actor : Option Uuid
  timestamp : Time.Timestamp

namespace Payload

variable {υ : Type}

def new : Effect υ Payload := return ⟨∅, none, ← Effect.wallClock⟩

def withActor (p : Payload) (actor : Uuid) : Payload := { p with actor := some actor }

def insert (p : Payload) (key : String) (value : Json) : Payload :=
  { p with data := p.data.insert key value }

def ofEntries (entries : List (String × Json)) : Effect υ Payload := do
  return entries.foldl (fun p e ↦ p.insert e.1 e.2) (← new)

def get? (p : Payload) (key : String) : Option Json := p.data.get? key

def text? (p : Payload) (key : String) : Option String := (p.get? key).bind Json.text?

def int64? (p : Payload) (key : String) : Option Int := (p.get? key).bind Json.int64?

def bool? (p : Payload) (key : String) : Option Bool := (p.get? key).bind Json.bool?

def uuid? (p : Payload) (key : String) : Option Uuid := (p.text? key).bind Uuid.parse?

def toJson (p : Payload) : Json :=
  .ofMembers [("data", .ofDict p.data), ("actor_id", .ofOption (fun u ↦ .text (toString u)) p.actor),
    ("timestamp", .text (toString p.timestamp))]

end Payload

end FrontDoor
