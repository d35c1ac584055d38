import FrontDoor.Text.Hex

namespace FrontDoor

structure Uuid where
  digits : List (Fin 16)
  length_digits : digits.length = 32
deriving DecidableEq

namespace Uuid

open Text (hexChar hexDigit? mapM_hexDigit?_hexChar)

def ofDigits? (digits : List (Fin 16)) : Option Uuid :=
  if h : digits.length = 32 then some ⟨digits, h⟩ else none

def groupSizes : List Nat := [8, 4, 4, 4, 12]

def groups {α : Type} : List Nat → List α → List (List α)
  | [], _ => []
  | n :: sizes, xs => xs.take n :: groups sizes (xs.drop n)

def chars (u : Uuid) : List Char :=
  List.intercalate ['-'] ((groups groupSizes u.digits).map (·.map hexChar))

instance : ToString Uuid := ⟨fun u ↦ String.ofList u.chars⟩

def ofSimple? (cs : List Char) : Option Uuid := (cs.mapM hexDigit?).bind ofDigits?

def ofHyphenated? (cs : List Char) : Option Uuid :=
  if cs.length = 36 ∧ cs[8]? = some '-' ∧ cs[13]? = some '-' ∧ cs[18]? = some '-' ∧
    cs[23]? = some '-' then
    ofSimple? (cs.take 8 ++ (cs.drop 9).take 4 ++ (cs.drop 14).take 4 ++ (cs.drop 19).take 4 ++
      cs.drop 24)
  else none

def unbraced? (cs : List Char) : Option (List Char) :=
  match cs with
  | '\x7b' :: rest =>
    match rest.reverse with
    | '\x7d' :: inner => some inner.reverse
    | _ => none
  | _ => none

def urnMark : List Char := ['u', 'r', 'n', ':', 'u', 'u', 'i', 'd', ':']

def unmarked? (cs : List Char) : Option (List Char) :=
  if (cs.take urnMark.length).map Char.toLower = urnMark then some (cs.drop urnMark.length) else none

/-- Reads the simple form, or the hyphenated one, alone, in braces or as a name. -/
def ofChars? (cs : List Char) : Option Uuid :=
  if cs.length = 32 then ofSimple? cs
  else if cs.length = 36 then ofHyphenated? cs
  else if cs.length = 38 then (unbraced? cs).bind ofHyphenated?
  else if cs.length = 45 then (unmarked? cs).bind ofHyphenated?
  else none

def parse? (s : String) : Option Uuid := ofChars? s.toList

inductive Fault where
  | character (found : Char) (position : Nat)
  | length (found : Nat)
  | groupCount (found : Nat)
  | groupLength (group expected found : Nat)

def Fault.message : Fault → String
  | .character found position =>
    "invalid character: found `" ++ found.toString ++ "` at " ++ toString position
  | .length found => "invalid length: found " ++ toString found
  | .groupCount found => "invalid group count: expected 5, found " ++ toString found
  | .groupLength group expected found =>
    "invalid group length in group " ++ toString group ++ ": expected " ++ toString expected
      ++ ", found " ++ toString found

/-- The first character that is neither a hyphen nor a hexadecimal digit, and the byte at which it
stands. -/
def strayChar? : Nat → List Char → Option (Char × Nat)
  | _, [] => none
  | place, c :: rest =>
    if c = '-' ∨ (hexDigit? c).isSome then strayChar? (place + c.utf8Size) rest else some (c, place)

def hyphens (cs : List Char) : List Nat :=
  (List.range cs.length).filter fun i ↦ cs[i]? = some '-'

def groupStarts : List (Nat × Nat × Nat) := [(0, 0, 8), (1, 9, 4), (2, 14, 4), (3, 19, 4)]

def diagnose (s : String) : Fault :=
  let cs := s.toList
  let (body, offset, simple) :=
    match unbraced? cs, unmarked? cs with
    | some inner, _ => (inner, 1, false)
    | none, some inner => (inner, urnMark.length, false)
    | none, none => (cs, 0, true)
  match strayChar? 0 body with
  | some (c, position) => .character c (position + offset)
  | none =>
    let marks := hyphens body
    if marks.isEmpty && simple then .length cs.length
    else if marks.length ≠ 4 then .groupCount (marks.length + 1)
    else
      match (groupStarts.zip marks).find? fun ((_, start, size), mark) ↦ mark ≠ start + size with
      | some ((group, start, size), mark) => .groupLength group size (mark - start)
      | none => .groupLength 4 12 (cs.length - 24)

def parse (s : String) : Except Fault Uuid :=
  match parse? s with
  | some u => .ok u
  | none => .error (diagnose s)

theorem ofSimple?_hexChar (u : Uuid) : ofSimple? (u.digits.map hexChar) = some u := by
  rw [ofSimple?, mapM_hexDigit?_hexChar]
  simp [ofDigits?, u.length_digits]

theorem parse?_toString (u : Uuid) : parse? (toString u) = some u := by
  have h : ofChars? u.chars = ofSimple? (u.digits.map hexChar) := by
    match u with
    | ⟨[d0, d1, d2, d3, d4, d5, d6, d7, d8, d9, d10, d11, d12, d13, d14, d15,
        d16, d17, d18, d19, d20, d21, d22, d23, d24, d25, d26, d27, d28, d29, d30, d31], _⟩ => rfl
  rw [parse?, show toString u = String.ofList u.chars from rfl, String.toList_ofList, h,
    ofSimple?_hexChar]

end Uuid

end FrontDoor
