import FrontDoor.Json.Cursor
import FrontDoor.Json.Basic
import FrontDoor.Decimal.Reading
import FrontDoor.Text.Hex
import FrontDoor.Text.Quoted
import FrontDoor.Decimal.Style

namespace FrontDoor.Json

open Reader

def kindText : Json → String
  | .null => "null"
  | .bool b => "boolean `" ++ (if b then "true" else "false") ++ "`"
  | .int n => "integer `" ++ toString n ++ "`"
  | .double x => "floating point `" ++ Decimal.json.write x ++ "`"
  | .text s => "string " ++ Text.quoted s
  | .list _ => "sequence"
  | .object _ => "map"

def invalidType (value : Json) (expected : String) : String :=
  "invalid type: " ++ value.kindText ++ ", expected " ++ expected

def invalidValue (value : Json) (expected : String) : String :=
  "invalid value: " ++ value.kindText ++ ", expected " ++ expected

namespace Reader

def word : List Char → Reader Unit
  | [] => return ()
  | c :: cs => do
    match ← next with
    | none => failHere .endOfValue
    | some d => if d = c then word cs else failHere .expectedIdentifier

def wholeDigits : Reader (List Char) := do
  match ← next with
  | none => failHere .endOfValue
  | some '0' =>
    match ← peek with
    | some c => if Decimal.isDigit c then failAhead .invalidNumber else return ['0']
    | none => return ['0']
  | some c =>
    if Decimal.isDigit c then return c :: (← takeWhile Decimal.isDigit)
    else failHere .invalidNumber

def fractionDigits : Reader (Option (List Char)) := do
  if (← peek) ≠ some '.' then return none
  bump
  let digits ← takeWhile Decimal.isDigit
  if digits.isEmpty then
    failAhead (if (← peek).isSome then .invalidNumber else .endOfValue)
  return some digits

/-- The digits of an exponent as far as they fit thirty-two signed bits, and one more if they do
not. -/
def exponentRun (digits : List Char) : List Char :=
  match (List.range digits.length).find? fun n ↦ 0x80000000 ≤
    Decimal.ofDigits (digits.take (n + 1)) with
  | some n => digits.take (n + 1)
  | none => digits

def exponentPart (nonzero : Bool) : Reader (Option Int) := do
  let c ← peek
  if c ≠ some 'e' ∧ c ≠ some 'E' then return none
  bump
  let sign ← peek
  if sign = some '+' ∨ sign = some '-' then bump
  match ← next with
  | none => failHere .endOfValue
  | some c =>
    if !Decimal.isDigit c then failHere .invalidNumber
    let start ← get
    let digits := c :: (← takeWhile Decimal.isDigit)
    let run := exponentRun digits
    let size := Decimal.ofDigits run
    if 0x80000000 ≤ size ∧ nonzero ∧ sign ≠ some '-' then
      set { start with column := start.column + (run.length - 1) }
      failHere .numberOutOfRange
    return some (if sign = some '-' then -size else size)

def number (negative : Bool) : Reader Json := do
  let whole ← wholeDigits
  let fraction ← fractionDigits
  let digits := Decimal.ofDigits (whole ++ fraction.getD [])
  let exponent ← exponentPart (digits ≠ 0)
  if fraction.isNone ∧ exponent.isNone ∧
      (if negative then 0 < digits ∧ digits ≤ 0x8000000000000000
        else digits < 0x10000000000000000) then
    return .int (if negative then -digits else digits)
  let x := Decimal.nearest negative digits (exponent.getD 0 - (fraction.getD []).length)
  if x.isFinite then return .double x else failHere .numberOutOfRange

def bumpBytes : Nat → List Char → Reader (Option (List Char))
  | 0, taken => return some taken.reverse
  | n + 1, taken => do
    let cur ← get
    match cur.rest with
    | [] => return none
    | c :: rest =>
      if c.utf8Size ≤ n + 1 then
        set (cur.past c rest)
        bumpBytes (n + 1 - c.utf8Size) (c :: taken)
      else
        set { cur with column := cur.column + n + 1 }
        return some (c :: taken).reverse
termination_by n => n
decreasing_by have := Char.utf8Size_pos c; omega

def hexQuad : Reader Nat := do
  match ← bumpBytes 4 [] with
  | none => failHere .endOfString
  | some cs =>
    match if cs.length = 4 then Text.hexNumber? cs else none with
    | some n => return n
    | none => failHere .invalidEscape

def peekInString : Reader Char := do
  match ← peek with
  | none => failHere .endOfString
  | some c => return c

def unicodeEscape : Reader Char := do
  let n ← hexQuad
  if 0xDC00 ≤ n ∧ n ≤ 0xDFFF then failHere .loneSurrogate
  if n < 0xD800 ∨ 0xDBFF < n then return Char.ofNat n
  if (← peekInString) ≠ '\\' then bump; failHere .cutSurrogatePair
  bump
  if (← peekInString) ≠ 'u' then bump; failHere .cutSurrogatePair
  bump
  let m ← hexQuad
  if m < 0xDC00 ∨ 0xDFFF < m then failHere .loneSurrogate
  return Char.ofNat ((n - 0xD800) * 0x400 + (m - 0xDC00) + 0x10000)

def simpleEscape? (c : Char) : Option Char :=
  match c with
  | '"' => some '"'
  | '\\' => some '\\'
  | '/' => some '/'
  | 'b' => some '\x08'
  | 'f' => some '\x0c'
  | 'n' => some '\n'
  | 'r' => some '\r'
  | 't' => some '\t'
  | _ => none

def escape : Reader Char := do
  match ← next with
  | none => failHere .endOfString
  | some 'u' => unicodeEscape
  | some c =>
    match simpleEscape? c with
    | some d => return d
    | none => failHere .invalidEscape

/-- A string behind its opening quote; every round reads a character, so the rest's length is fuel
enough. -/
def stringLoop : Nat → List Char → Reader String
  | 0, _ => failHere .endOfString
  | fuel + 1, read => do
    match ← next with
    | none => failHere .endOfString
    | some '"' => return String.ofList read.reverse
    | some '\\' => stringLoop fuel ((← escape) :: read)
    | some c => if c < ' ' then failHere .controlCharacter else stringLoop fuel (c :: read)

def string : Reader String := do stringLoop ((← get).rest.length + 1) []

/-- Reads far enough to tell what stands here in place of what was expected. -/
def wrongType {α : Type} (expected : String) : Reader α := placed do
  match ← peek with
  | some 'n' => bump; word ['u', 'l', 'l']; unsuitable (invalidType .null expected)
  | some 't' => bump; word ['r', 'u', 'e']; unsuitable (invalidType (.bool true) expected)
  | some 'f' => bump; word ['a', 'l', 's', 'e']; unsuitable (invalidType (.bool false) expected)
  | some '-' => bump; unsuitable (invalidType (← number true) expected)
  | some '"' => bump; unsuitable (invalidType (.text (← string)) expected)
  | some '[' => unsuitable (invalidType (.list []) expected)
  | some '\x7b' => unsuitable (invalidType (.object []) expected)
  | some c =>
    if Decimal.isDigit c then unsuitable (invalidType (← number false) expected)
    else failAhead .expectedValue
  | none => failAhead .expectedValue

end Reader

end FrontDoor.Json
