import FrontDoor.Json.Record
import FrontDoor.Phase

namespace FrontDoor.Json

abbrev Decoder (α : Type) := Json → Except String α

namespace Decode

variable {α : Type}

def text : Decoder String
  | .text s => .ok s
  | value => .error (invalidType value "a string")

def bool : Decoder Bool
  | .bool b => .ok b
  | value => .error (invalidType value "a boolean")

def integer (expected : String) (low high : Int) : Decoder Int
  | .int n => if low ≤ n ∧ n ≤ high then .ok n else .error (invalidValue (.int n) expected)
  | value => .error (invalidType value expected)

def natural (expected : String) (bits : Nat) : Decoder Nat := fun value ↦
  (integer expected 0 (Int.pow 2 bits - 1) value).map Int.toNat

def double : Decoder Float
  | .double x => .ok x
  | .int n => .ok (Float.ofInt n)
  | value => .error (invalidType value "f64")

def list (item : Decoder α) : Decoder (List α)
  | .list items => items.mapM item
  | value => .error (invalidType value "a sequence")

def dict : Decoder (Dict Json)
  | .object members => .ok (Dict.ofList members)
  | value => .error (invalidType value "a map")

/-- The fields of a record, which stands as an object or as a list of its fields. -/
inductive Fields where
  | named (members : List (String × Json))
  | placed (title : String) (names : List String) (items : List Json)

def Fields.get? : Fields → String → Option Json
  | .named members, name => Dict.find name members
  | .placed _ names items, name => (names.idxOf? name).bind fun i ↦ items[i]?

def Fields.optional (fields : Fields) (name : String) (decode : Decoder α) (default : α) :
    Except String α :=
  match fields.get? name with
  | some value => decode value
  | none => .ok default

def Fields.required (fields : Fields) (name : String) (decode : Decoder α) : Except String α :=
  match fields.get? name with
  | some value => decode value
  | none =>
    match fields with
    | .named _ => .error ("missing field `" ++ name ++ "`")
    | .placed title names items =>
      .error ("invalid length " ++ toString items.length ++ ", expected struct " ++ title ++ " with "
        ++ toString names.length ++ " elements")

/-- A record read by `body`; a list must not be longer than the record. -/
def record (title : String) (names : List String) (body : Fields → Except String α) : Decoder α
  | .object members => body (.named members)
  | .list items => do
    let a ← body (.placed title names items)
    if names.length < items.length then
      .error ("invalid length " ++ toString items.length ++ ", expected fewer elements in array")
    else .ok a
  | value => .error (invalidType value ("struct " ++ title))

/-- One name of a list, alone or as the only key of an object whose value is null. -/
def variant (names : List String) (ofName? : String → Option α) : Decoder α :=
  let named (name : String) : Except String α :=
    match ofName? name with
    | some a => .ok a
    | none => .error (Reader.unknownVariant name names)
  fun
  | .text name => named name
  | .object [(name, value)] => do
    let a ← named name
    match value with
    | .null => .ok a
    | value => .error (invalidType value "unit")
  | .object members => .error (invalidValue (.object members) "map with a single key")
  | value => .error (invalidType value "string or map")

end Decode

end FrontDoor.Json

namespace FrontDoor.Phase

def ofName? (name : String) : Option Phase := all.find? fun p ↦ p.name = name

def ofJson : Json.Decoder Phase := Json.Decode.variant (all.map name) ofName?

end FrontDoor.Phase
