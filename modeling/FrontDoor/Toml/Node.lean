import FrontDoor.Dict
import FrontDoor.Toml.Basic

namespace FrontDoor.Toml

inductive Opening where
  | implied
  | dotted
  | headed
deriving DecidableEq

inductive Node where
  | value (value : Toml)
  | table (opening : Opening) (members : List (String × Node))
  | tables (items : List (List (String × Node)))

abbrev Members := List (String × Node)

mutual

def Node.close : Node → Toml
  | .value v => v
  | .table _ members => .table (closeMembers members)
  | .tables items => .list (closeTables items).reverse

def closeMembers : List (String × Node) → List (String × Toml)
  | [] => []
  | (key, node) :: rest => (key, node.close) :: closeMembers rest

def closeTables : List (List (String × Node)) → List Toml
  | [] => []
  | members :: rest => .table (closeMembers members) :: closeTables rest

end

namespace Members

/-- Edits the table at the end of a path. Missing tables on the way are made; `byKey` tells that the
path is that of a key and not that of a header. -/
def within (byKey : Bool) (edit : Opening → Members → Option Members) :
    List String → Opening → Members → Option Members
  | [], opening, members => edit opening members
  | key :: path, _, members =>
    match Dict.find key members with
    | none =>
      let opening := if byKey then Opening.dotted else .implied
      (within byKey edit path opening []).map fun inner ↦ Dict.put key (.table opening inner) members
    | some (.table opening inner) =>
      if byKey ∧ opening = .headed then none
      else (within byKey edit path opening inner).map fun inner ↦
        Dict.put key (.table opening inner) members
    | some (.tables (last :: earlier)) =>
      if byKey then none
      else (within byKey edit path .headed last).map fun last ↦
        Dict.put key (.tables (last :: earlier)) members
    | some _ => none

def setValue (path : List String) (key : String) (value : Toml) : Opening → Members → Option Members :=
  within true (fun opening members ↦ do
    guard ((opening = .dotted) ↔ ¬ path.isEmpty)
    guard (Dict.find key members).isNone
    return Dict.put key (.value value) members) path

def openTable (path : List String) (key : String) : Members → Option Members :=
  within false (fun _ members ↦
    match Dict.find key members with
    | none => some (Dict.put key (.table .headed []) members)
    | some (.table .implied inner) => some (Dict.put key (.table .headed inner) members)
    | some _ => none) path .headed

def pushTable (path : List String) (key : String) : Members → Option Members :=
  within false (fun _ members ↦
    match Dict.find key members with
    | none => some (Dict.put key (.tables [[]]) members)
    | some (.tables items) => some (Dict.put key (.tables ([] :: items)) members)
    | some _ => none) path .headed

end Members

end FrontDoor.Toml
