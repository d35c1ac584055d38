import FrontDoor.Config.App
import FrontDoor.Config.Value
import FrontDoor.Text.Lower

namespace FrontDoor.Config

structure Complaint where
  problem : String
  key : String
  origin : Option String

def Complaint.text (c : Complaint) : String :=
  c.problem ++ (if c.key.isEmpty then "" else " for key `" ++ c.key ++ "`")
    ++ (match c.origin with | some o => " in " ++ o | none => "")

def Complaint.locate (place : String) (c : Complaint) : Complaint :=
  { c with key := if c.key.isEmpty ∨ c.key.startsWith "[" then place ++ c.key
    else place ++ "." ++ c.key }

def pointed (x : Float) : String :=
  let s := Decimal.plain.write x
  if x.isFinite && !s.contains '.' then s ++ ".0" else s

namespace Value

def kindText : Value → String
  | .scalar _ .missing => "unit value"
  | .scalar _ (.bool b) => "boolean `" ++ (if b then "true" else "false") ++ "`"
  | .scalar _ (.int n) => "integer `" ++ toString n ++ "`"
  | .scalar _ (.double x) => "floating point `" ++ pointed x ++ "`"
  | .scalar _ (.text s) => "string " ++ Text.quoted s
  | .list .. => "sequence"
  | .table .. => "map"

def misfit (value : Value) (expected : String) : Complaint :=
  ⟨"invalid type: " ++ value.kindText ++ ", expected " ++ expected, "", none⟩

def unconvertible (value : Value) (expected : String) : Complaint :=
  { value.misfit expected with origin := value.origin }

def text : Value → Except Complaint String
  | .scalar _ (.bool b) => .ok (if b then "true" else "false")
  | .scalar _ (.int n) => .ok (toString n)
  | .scalar _ (.double x) => .ok (Decimal.plain.write x)
  | .scalar _ (.text s) => .ok s
  | value => .error (value.unconvertible "a string")

def word? (s : String) : Option Bool :=
  let s := Text.lower s
  if s = "true" ∨ s = "on" ∨ s = "yes" then some true
  else if s = "false" ∨ s = "off" ∨ s = "no" then some false
  else none

def bool : Value → Except Complaint Bool
  | .scalar _ (.bool b) => .ok b
  | .scalar _ (.int n) => .ok (n ≠ 0)
  | .scalar _ (.double x) => .ok (x != 0.0)
  | .scalar o (.text s) =>
    if s = "1" then .ok true
    else if s = "0" then .ok false
    else
      match word? s with
      | some b => .ok b
      | none => .error (unconvertible (.scalar o (.text (Text.lower s))) "a boolean")
  | value => .error (value.unconvertible "a boolean")

def rounded (x : Float) : Nat := x.round.toUInt64.toNat

def word64 : Value → Except Complaint Nat
  | .scalar o (.int n) =>
    if n < 0 then
      .error ⟨"invalid type: 64-bit integer `" ++ toString n
        ++ "`, expected an unsigned 64 bit or less integer", "", o⟩
    else .ok n.toNat
  | .scalar _ (.bool b) => .ok (if b then 1 else 0)
  | .scalar _ (.double x) => .ok (rounded x)
  | .scalar o (.text s) =>
    match word? s with
    | some b => .ok (if b then 1 else 0)
    | none =>
      let cs := s.toList
      match Decimal.natural? (if cs.head? = some '+' then cs.tail else cs) with
      | some n => if n < 0x10000000000000000 then .ok n
        else .error (unconvertible (.scalar o (.text s)) "an integer")
      | none => .error (unconvertible (.scalar o (.text s)) "an integer")
  | value => .error (value.unconvertible "an integer")

def natural (bits : Nat) (value : Value) : Except Complaint Nat := do
  let n ← value.word64
  if n < Nat.pow 2 bits then return n
  else
    throw ⟨"invalid type: 64-bit unsigned integer `" ++ toString n ++ "`, expected an unsigned "
      ++ toString bits ++ " bit integer", "", none⟩

def place (i : Nat) : String := "[" ++ toString i ++ "]"

def texts : Value → Except Complaint (List String)
  | .list _ items => items.zipIdx.mapM fun (item, i) ↦ item.text.mapError (Complaint.locate (place i))
  | value => .error (value.misfit "a sequence")

def dict : Value → Except Complaint (Dict Json)
  | .table _ members => .ok (Dict.ofList (membersToJson members))
  | value => .error (value.misfit "a map")

/-- A record stands as a table or as a list of its fields; what it does not know is left out. -/
def record {α : Type} (title : String) (names : List String) (value : Value)
    (body : (String → Option (String × Value)) → Except Complaint α) : Except Complaint α :=
  match value with
  | .table _ members => body fun name ↦ (Dict.find name members).map (name, ·)
  | .list _ items => body fun name ↦ do
      let i ← names.idxOf? name
      return (place i, ← items[i]?)
  | value => .error (value.misfit ("struct " ++ title))

end Value

def lenientReading : Reading Value Complaint where
  text := Value.text
  bool := Value.bool
  natural := Value.natural
  texts := Value.texts
  dict := Value.dict
  record := Value.record
  locate := Complaint.locate

end FrontDoor.Config
