import FrontDoor.Json.Basic
import FrontDoor.Toml.Basic

namespace FrontDoor.Config

inductive Scalar where
  | missing
  | bool (value : Bool)
  | int (value : Int)
  | double (value : Float)
  | text (value : String)

inductive Value where
  | scalar (origin : Option String) (value : Scalar)
  | list (origin : Option String) (items : List Value)
  | table (origin : Option String) (members : List (String × Value))

namespace Value

instance : Inhabited Value := ⟨.scalar none .missing⟩

def missing : Value := .scalar none .missing

def origin : Value → Option String
  | .scalar o _ => o
  | .list o _ => o
  | .table o _ => o

/-- The origin and members of a table; anything else counts as an empty table of no origin. -/
def asTable : Value → Option String × List (String × Value)
  | .table o members => (o, members)
  | _ => (none, [])

def asList : Value → Option String × List Value
  | .list o items => (o, items)
  | _ => (none, [])

mutual

def onto : Value → Value → Value
  | .table _ members, below => .table below.asTable.1 (membersOnto members below.asTable.2)
  | value, _ => value

def membersOnto : List (String × Value) → List (String × Value) → List (String × Value)
  | [], below => below
  | (key, value) :: rest, below =>
    membersOnto rest (Dict.put key (onto value ((Dict.find key below).getD missing)) below)

end

mutual

def toJson : Value → Json
  | .scalar _ .missing => .null
  | .scalar _ (.bool b) => .bool b
  | .scalar _ (.int n) => .int n
  | .scalar _ (.double x) => .ofFloat x
  | .scalar _ (.text s) => .text s
  | .list _ items => .list (itemsToJson items)
  | .table _ members => .object (membersToJson members)

def itemsToJson : List Value → List Json
  | [] => []
  | item :: rest => item.toJson :: itemsToJson rest

def membersToJson : List (String × Value) → List (String × Json)
  | [] => []
  | (key, value) :: rest => (key, value.toJson) :: membersToJson rest

end

def fits (n : Int) : Bool := -0x8000000000000000 ≤ n && n < 0x8000000000000000

mutual

def ofJson (origin : Option String) : Json → Value
  | .null => .scalar origin .missing
  | .bool b => .scalar origin (.bool b)
  | .int n => .scalar origin (if fits n then .int n else .double (Float.ofInt n))
  | .double x => .scalar origin (.double x)
  | .text s => .scalar origin (.text s)
  | .list items => .list origin (ofJsonItems origin items)
  | .object members => .table origin (ofJsonMembers origin members)

def ofJsonItems (origin : Option String) : List Json → List Value
  | [] => []
  | item :: rest => ofJson origin item :: ofJsonItems origin rest

def ofJsonMembers (origin : Option String) : List (String × Json) → List (String × Value)
  | [] => []
  | (key, value) :: rest => (key, ofJson origin value) :: ofJsonMembers origin rest

end

/-- A whole number that does not fit is refused, with the side on which it lies. -/
inductive Overflow where
  | tooLarge
  | tooSmall

def Overflow.text : Overflow → String
  | .tooLarge => "number too large to fit in target type"
  | .tooSmall => "number too small to fit in target type"

mutual

def ofToml (origin : Option String) : Toml → Except Overflow Value
  | .text s => .ok (.scalar origin (.text s))
  | .int n =>
    if fits n then .ok (.scalar origin (.int n)) else .error (if n < 0 then .tooSmall else .tooLarge)
  | .double x => .ok (.scalar origin (.double x))
  | .bool b => .ok (.scalar origin (.bool b))
  | .stamp s => .ok (.scalar origin (.text s.text))
  | .list items => (ofTomlItems origin items).map (.list origin)
  | .table members => (ofTomlMembers origin members).map (.table origin)

def ofTomlItems (origin : Option String) : List Toml → Except Overflow (List Value)
  | [] => .ok []
  | item :: rest => do
    let value ← ofToml origin item
    return value :: (← ofTomlItems origin rest)

def ofTomlMembers (origin : Option String) :
    List (String × Toml) → Except Overflow (List (String × Value))
  | [] => .ok []
  | (key, item) :: rest => do
    let value ← ofToml origin item
    return (key, value) :: (← ofTomlMembers origin rest)

end

end Value

end FrontDoor.Config
