import FrontDoor.Time.Calendar
import FrontDoor.Decimal.Reading
import FrontDoor.Text.Blank

namespace FrontDoor.Time

/-- A day, a second of it and a fraction, which reaches past one second only during a leap second. -/
structure Timestamp where
  day : Int
  second : Nat
  nano : Nat
deriving DecidableEq, Repr

inductive Fault where
  | outOfRange
  | impossible
  | invalid
  | tooShort
  | tooLong
deriving DecidableEq

def Fault.message : Fault → String
  | .outOfRange => "input is out of range"
  | .impossible => "no possible date and time matching input"
  | .invalid => "input contains invalid characters"
  | .tooShort => "premature end of input"
  | .tooLong => "trailing input"

abbrev Scan := StateT (List Char) (Except Fault)

namespace Scan

def skipBlank : Scan Unit := modify Text.dropBlank

def digits (limit : Option Nat) : Scan Nat := do
  let cs ← get
  if cs.isEmpty then throw .tooShort
  let run := (match limit with | some n => cs.take n | none => cs).takeWhile Decimal.isDigit
  if run.isEmpty then throw .invalid
  let n := Decimal.ofDigits run
  if 0x8000000000000000 ≤ n then throw .outOfRange
  set (cs.drop run.length)
  return n

def field (low high : Nat) : Scan Nat := do
  skipBlank
  let n ← digits (some 2)
  if n < low ∨ high < n then throw .outOfRange
  return n

def year : Scan Int := do
  skipBlank
  let y : Int ← match ← get with
    | '-' :: rest => set rest; pure (-(← digits none : Int))
    | '+' :: rest => set rest; pure (← digits none : Int)
    | _ => pure (← digits (some 4) : Int)
  if y < -0x80000000 ∨ 0x80000000 ≤ y then throw .outOfRange
  return y

def mark (c : Char) : Scan Unit := do
  skipBlank
  match ← get with
  | [] => throw .tooShort
  | d :: rest => if d = c then set rest else throw .invalid

def fraction : Scan Nat := do
  match ← get with
  | '.' :: rest =>
    set rest
    let n ← digits (some 9)
    let used := rest.length - (← get).length
    modify (·.dropWhile Decimal.isDigit)
    return n * Nat.pow 10 (9 - used)
  | _ => return 0

def twoDigits (highFirst : Char) : Scan Nat := do
  match ← get with
  | a :: b :: rest =>
    if !Decimal.isDigit a || !Decimal.isDigit b then throw .invalid
    if highFirst < a then throw .outOfRange
    set rest
    return Decimal.ofDigits [a, b]
  | [a] => throw (if a.utf8Size = 1 then .tooShort else .invalid)
  | [] => throw .tooShort

def zone : Scan Int := do
  match ← get with
  | 'Z' :: rest | 'z' :: rest => set rest; return 0
  | u :: t :: c :: rest =>
    if u.toUpper = 'U' ∧ t.toUpper = 'T' ∧ c.toUpper = 'C' then set rest; return 0
    else distance
  | _ => distance
where
  distance : Scan Int := do
    let negative ← match ← get with
      | '+' :: rest => set rest; pure false
      | '-' :: rest => set rest; pure true
      | '\u2212' :: rest => set rest; pure true
      | _ :: _ => throw .invalid
      | [] => throw .tooShort
    let hours ← twoDigits '9'
    modify (·.dropWhile fun c ↦ c = ':' || Text.isBlank c)
    let minutes ← twoDigits '5'
    let seconds : Int := hours * 3600 + minutes * 60
    return if negative then -seconds else seconds

end Scan

def hasDate (year : Int) : Bool := -262143 ≤ year && year ≤ 262142

/-- The point in time at a local date, second and fraction, `offset` seconds ahead of UTC. -/
def Timestamp.ofLocal (date : Date) (second nano : Nat) (offset : Int) : Except Fault Timestamp := do
  if !hasDate date.year || !date.isValid || offset ≤ -86400 || 86400 ≤ offset then throw .outOfRange
  let seconds := second - offset
  let day := date.toDays + seconds / 86400
  if !hasDate (Date.ofDays day).year then throw .impossible
  return ⟨day, (seconds % 86400).toNat, nano⟩

namespace Scan

def timestamp : Scan Timestamp := do
  let year ← year
  mark '-'
  let month ← field 1 12
  mark '-'
  let day ← field 1 31
  match ← get with
  | [] => throw .tooShort
  | c :: rest => if c = 'T' ∨ c = 't' ∨ c = ' ' then set rest else throw .invalid
  let hour ← field 0 23
  mark ':'
  let minute ← field 0 59
  mark ':'
  let second ← field 0 60
  let nano ← fraction
  skipBlank
  let offset ← zone
  skipBlank
  unless (← get).isEmpty do throw .tooLong
  let leap := second = 60
  Timestamp.ofLocal ⟨year, month, day⟩ (hour * 3600 + minute * 60 + if leap then 59 else second)
    (if leap then nano + 1000000000 else nano) offset

end Scan

def Timestamp.parse (s : String) : Except Fault Timestamp := Scan.timestamp.run' s.toList

def padded (width n : Nat) : String :=
  let digits := toString n
  String.ofList (List.replicate (width - digits.length) '0') ++ digits

def yearText (year : Int) : String :=
  if 0 ≤ year ∧ year ≤ 9999 then padded 4 year.toNat
  else (if year < 0 then "-" else "+") ++ padded 4 year.natAbs

def fractionText (nano : Nat) : String :=
  if nano = 0 then ""
  else if nano % 1000000 = 0 then "." ++ padded 3 (nano / 1000000)
  else if nano % 1000 = 0 then "." ++ padded 6 (nano / 1000)
  else "." ++ padded 9 nano

instance : ToString Timestamp := ⟨fun t ↦
  let date := Date.ofDays t.day
  let leap := 1000000000 ≤ t.nano
  yearText date.year ++ "-" ++ padded 2 date.month ++ "-" ++ padded 2 date.day ++ "T"
    ++ padded 2 (t.second / 3600) ++ ":" ++ padded 2 (t.second / 60 % 60) ++ ":"
    ++ padded 2 (t.second % 60 + if leap then 1 else 0)
    ++ fractionText (if leap then t.nano - 1000000000 else t.nano) ++ "Z"⟩

def Timestamp.plus (t : Timestamp) (nanos : Nat) : Timestamp :=
  let total := t.nano + nanos
  let seconds := t.second + total / 1000000000
  ⟨t.day + seconds / 86400, seconds % 86400, total % 1000000000⟩

end FrontDoor.Time
