import FrontDoor.Json.Reader

namespace FrontDoor.Json.Reader

variable {α σ : Type}

structure RecordField (σ : Type) where
  name : String
  isSet : σ → Bool
  read : σ → Reader σ

def listFields (title : String) (count : Nat) : List (RecordField σ) → Nat → σ → Reader σ
  | [], _, acc => return acc
  | field :: rest, index, acc => do
    if ← hasElement (index = 0) then
      listFields title count rest (index + 1) (← field.read acc)
    else
      unsuitable ("invalid length " ++ toString index ++ ", expected struct " ++ title ++ " with "
        ++ toString count ++ " elements")

def objectFields (fields : List (RecordField σ)) (start : σ) : Reader σ := do
  members (fun key acc ↦ do
    match fields.find? fun field ↦ field.name = key with
    | some field =>
      if field.isSet acc then unsuitable ("duplicate field `" ++ key ++ "`")
      colon
      field.read acc
    | none =>
      colon
      skipValue
      return acc) (← fuelHere) true start

/-- A record with the given fields; `finish` says what to do about missing ones. -/
def record (title : String) (depth : Nat) (fields : List (RecordField σ)) (start : σ)
    (finish : σ → Except String α) : Reader α := placed do
  let conclude (acc : σ) : Reader α :=
    match finish acc with
    | .ok a => return a
    | .error message => unsuitable message
  match ← peekToken with
  | none => failAhead .endOfValue
  | some '[' =>
    enter depth
    closedBy closeList do conclude (← listFields title fields.length fields 0 start)
  | some '\x7b' =>
    enter depth
    closedBy closeObject do conclude (← objectFields fields start)
  | some _ => wrongType ("struct " ++ title)

def unknownVariant (name : String) (names : List String) : String :=
  let quoted := names.map fun n ↦ "`" ++ n ++ "`"
  "unknown variant `" ++ name ++ "`, expected " ++
    match quoted with
    | [a] => a
    | [a, b] => a ++ " or " ++ b
    | _ => "one of " ++ ", ".intercalate quoted

/-- One name of a list, alone or as the only key of an object whose value is null. -/
def variant (depth : Nat) (names : List String) (ofName? : String → Option α) : Reader α := do
  let named : Reader α := stringValue "variant identifier" fun name ↦
    match ofName? name with
    | some a => .ok a
    | none => .error (unknownVariant name names)
  match ← peekToken with
  | none => failAhead .endOfValue
  | some '"' => named
  | some '\x7b' =>
    enter depth
    let a ← named
    colon
    unit
    match ← peekToken with
    | some '\x7d' => bump; return a
    | some _ => failHere .expectedValue
    | none => failHere .endOfObject
  | some _ => failAhead .expectedValue

end FrontDoor.Json.Reader
