import FrontDoor.Json.Token

namespace FrontDoor.Json.Reader

variable {α σ : Type}

def maxDepth : Nat := 127

def hasElement (first : Bool) : Reader Bool := do
  match ← peekToken with
  | none => failAhead .endOfList
  | some ']' => return false
  | some c =>
    if first then return true
    else if c = ',' then
      bump
      match ← peekToken with
      | none => failAhead .endOfValue
      | some ']' => failAhead .trailingComma
      | some _ => return true
    else failAhead .expectedCommaOrBracket

def hasMember (first : Bool) : Reader Bool := do
  match ← peekToken with
  | none => failAhead .endOfObject
  | some '\x7d' => return false
  | some c =>
    if first then
      if c = '"' then return true else failAhead .keyNotString
    else if c = ',' then
      bump
      match ← peekToken with
      | none => failAhead .endOfValue
      | some '"' => return true
      | some '\x7d' => failAhead .trailingComma
      | some _ => failAhead .keyNotString
    else failAhead .expectedCommaOrBrace

def closeList : Reader Unit := do
  match ← peekToken with
  | none => failAhead .endOfList
  | some ']' => bump
  | some ',' =>
    bump
    match ← peekToken with
    | some ']' => failAhead .trailingComma
    | _ => failAhead .trailingCharacters
  | some _ => failAhead .trailingCharacters

def closeObject : Reader Unit := do
  match ← peekToken with
  | none => failAhead .endOfObject
  | some '\x7d' => bump
  | some ',' => failAhead .trailingComma
  | some _ => failAhead .trailingCharacters

def colon : Reader Unit := do
  match ← peekToken with
  | some ':' => bump
  | some _ => failAhead .expectedColon
  | none => failAhead .endOfObject

/-- The elements of a list behind its bracket. Every round reads at least a character of the `fuel`
many left. -/
def elements (item : Reader α) : Nat → Bool → List α → Reader (List α)
  | 0, _, _ => failAhead .endOfList
  | fuel + 1, first, read => do
    if ← hasElement first then
      let a ← item
      elements item fuel false (a :: read)
    else return read.reverse

/-- Folds over the members of an object behind its brace; `member` reads the value of a key. -/
def members (member : String → σ → Reader σ) : Nat → Bool → σ → Reader σ
  | 0, _, _ => failAhead .endOfObject
  | fuel + 1, first, acc => do
    if ← hasMember first then
      bump
      let key ← string
      let acc ← member key acc
      members member fuel false acc
    else return acc

def fuelHere : Reader Nat := return (← get).rest.length + 1

def enter (depth : Nat) : Reader Unit := do
  if depth = 0 then failAhead .tooDeep else bump

def member (item : Reader Json) (key : String) (read : List (String × Json)) :
    Reader (List (String × Json)) := do
  colon
  return Dict.put key (← item) read

def value : Nat → Reader Json
  | 0 => failAhead .tooDeep
  | depth + 1 => placed do
    match ← peekToken with
    | none => failAhead .endOfValue
    | some 'n' => bump; word ['u', 'l', 'l']; return .null
    | some 't' => bump; word ['r', 'u', 'e']; return .bool true
    | some 'f' => bump; word ['a', 'l', 's', 'e']; return .bool false
    | some '-' => bump; number true
    | some '"' => bump; return .text (← string)
    | some '[' =>
      enter depth
      closedBy closeList do return .list (← elements (value depth) (← fuelHere) true [])
    | some '\x7b' =>
      enter depth
      closedBy closeObject do
        return .object (← members (member (value depth)) (← fuelHere) true [])
    | some c => if Decimal.isDigit c then number false else failAhead .expectedValue

def run (reader : Reader α) (text : String) : Except Problem α :=
  let whole : Reader α := do
    let a ← reader
    if (← peekToken).isSome then failAhead .trailingCharacters
    return a
  match whole (Cursor.start text) with
  | .ok a _ => .ok a
  | .error e _ => .error e

def stringValue (expected : String) (convert : String → Except String α) : Reader α := placed do
  match ← peekToken with
  | none => failAhead .endOfValue
  | some '"' =>
    bump
    match convert (← string) with
    | .ok a => return a
    | .error message => unsuitable message
  | some _ => wrongType expected

def text : Reader String := stringValue "a string" .ok

def optional (reader : Reader α) : Reader (Option α) := do
  match ← peekToken with
  | some 'n' => bump; word ['u', 'l', 'l']; return none
  | _ => return some (← reader)

def unit : Reader Unit := placed do
  match ← peekToken with
  | none => failAhead .endOfValue
  | some 'n' => bump; word ['u', 'l', 'l']
  | some _ => wrongType "unit"

def dict (depth : Nat) : Reader (Dict Json) := placed do
  match ← peekToken with
  | none => failAhead .endOfValue
  | some '\x7b' =>
    enter depth
    closedBy closeObject do
      members (fun key acc ↦ do
        colon
        return acc.insert key (← value depth)) (← fuelHere) true ∅
  | some _ => wrongType "a map"

def skipExponent : Reader Unit := do
  bump
  let sign ← peek
  if sign = some '+' ∨ sign = some '-' then bump
  match ← next with
  | some c => if Decimal.isDigit c then let _ ← takeWhile Decimal.isDigit else failHere .invalidNumber
  | none => failHere .invalidNumber

def skipNumber : Reader Unit := do
  match ← next with
  | some '0' =>
    match ← peek with
    | some c => if Decimal.isDigit c then failAhead .invalidNumber
    | none => pure ()
  | some c => if Decimal.isDigit c then let _ ← takeWhile Decimal.isDigit else failHere .invalidNumber
  | none => failHere .invalidNumber
  if (← peek) = some '.' then
    bump
    if (← takeWhile Decimal.isDigit).isEmpty then failAhead .invalidNumber
  let c ← peek
  if c = some 'e' ∨ c = some 'E' then skipExponent

def skipString : Nat → Reader Unit
  | 0 => failHere .endOfString
  | fuel + 1 => do
    match ← peek with
    | none => failHere .endOfString
    | some '"' => bump
    | some '\\' =>
      bump
      match ← next with
      | none => failHere .endOfString
      | some 'u' => let _ ← hexQuad
      | some c => if (simpleEscape? c).isNone then failHere .invalidEscape
      skipString fuel
    | some c => if c < ' ' then failHere .controlCharacter else bump; skipString fuel

def skipScalar : Reader (Option Char) := do
  match ← peekToken with
  | none => failAhead .endOfValue
  | some 'n' => bump; word ['u', 'l', 'l']; return none
  | some 't' => bump; word ['r', 'u', 'e']; return none
  | some 'f' => bump; word ['a', 'l', 's', 'e']; return none
  | some '-' => bump; skipNumber; return none
  | some '"' => bump; skipString (← fuelHere); return none
  | some c =>
    if c = '[' ∨ c = '\x7b' then bump; return some c
    else if Decimal.isDigit c then skipNumber; return none
    else failAhead .expectedValue

/-- Reads closing marks and the comma behind a finished value; answers the frames that are still
open. -/
def skipClosings : Nat → Bool → List Char → Reader (List Char)
  | 0, _, frames => return frames
  | _ + 1, _, [] => return []
  | fuel + 1, acceptComma, frame :: outer => do
    match ← peekToken with
    | none => failAhead (if frame = '[' then .endOfList else .endOfObject)
    | some c =>
      if c = ',' ∧ acceptComma then bump; return frame :: outer
      else if c = ']' ∧ frame = '[' ∨ c = '\x7d' ∧ frame = '\x7b' then
        bump
        skipClosings fuel true outer
      else if acceptComma then
        failAhead (if frame = '[' then .expectedCommaOrBracket else .expectedCommaOrBrace)
      else return frame :: outer

def skipKey : Reader Unit := do
  match ← peekToken with
  | some '"' => bump
  | some _ => failAhead .keyNotString
  | none => failAhead .endOfObject
  skipString (← fuelHere)
  colon

def skipLoop : Nat → List Char → Reader Unit
  | 0, _ => failAhead .endOfValue
  | fuel + 1, frames => do
    let opened ← skipScalar
    let frames ← skipClosings (fuel + 1) opened.isNone (opened.toList ++ frames)
    match frames with
    | [] => return ()
    | frame :: _ =>
      if frame = '\x7b' then skipKey
      skipLoop fuel frames

def skipValue : Reader Unit := do skipLoop (← fuelHere) []

end FrontDoor.Json.Reader

namespace FrontDoor.Json

def parse (text : String) : Except Problem Json := (Reader.value (Reader.maxDepth + 1)).run text

end FrontDoor.Json
