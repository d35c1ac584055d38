import FrontDoor.Dict

namespace FrontDoor

inductive Json where
  | null
  | bool (value : Bool)
  | int (value : Int)
  | double (value : Float)
  | text (value : String)
  | list (items : List Json)
  | object (members : List (String × Json))

instance : Inhabited Json := ⟨.null⟩

namespace Json

/-- An object from its members; of two members with one key the later one stays. -/
def ofMembers (members : List (String × Json)) : Json :=
  .object (members.foldl (fun acc m ↦ Dict.put m.1 m.2 acc) [])

def ofDict (d : Dict Json) : Json := .object d.entries

def ofOption {α : Type} (f : α → Json) (value : Option α) : Json :=
  match value with
  | none => .null
  | some a => f a

def ofFloat (x : Float) : Json := if x.isFinite then .double x else .null

def field? (value : Json) (key : String) : Option Json :=
  match value with
  | .object members => Dict.find key members
  | _ => none

def text? (value : Json) : Option String :=
  match value with
  | .text s => some s
  | _ => none

def bool? (value : Json) : Option Bool :=
  match value with
  | .bool b => some b
  | _ => none

def int64? (value : Json) : Option Int :=
  match value with
  | .int n => if -0x8000000000000000 ≤ n ∧ n < 0x8000000000000000 then some n else none
  | _ => none

end Json

end FrontDoor
