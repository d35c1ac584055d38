import FrontDoor.Time.Timestamp

namespace FrontDoor.Toml

open Time (Date padded)

structure Clock where
  hour : Nat
  minute : Nat
  second : Option Nat
  nano : Option Nat
deriving DecidableEq

inductive Offset where
  | utc
  | minutes (ahead : Int)
deriving DecidableEq

inductive Stamp where
  | date (date : Date)
  | clock (clock : Clock)
  | dateTime (date : Date) (clock : Clock) (offset : Option Offset)
deriving DecidableEq

abbrev Scanner := StateT (List Char) Option

namespace Stamp

def field (width high : Nat) : Scanner Nat := do
  let digits := (← get).takeWhile Decimal.isDigit
  guard (digits.length = width)
  modify (·.drop width)
  let n := Decimal.ofDigits digits
  guard (n ≤ high)
  return n

def mark (c : Char) : Scanner Unit := do
  guard ((← get).head? = some c)
  modify (·.drop 1)

def startsWith (c : Char) : Scanner Bool := do
  if (← get).head? = some c then
    modify (·.drop 1)
    return true
  else return false

def calendarDate : Scanner Date := do
  let year ← field 4 9999
  mark '-'
  let month ← field 2 12
  mark '-'
  let day ← field 2 31
  let date : Date := ⟨year, month, day⟩
  guard date.isValid
  return date

def nanos (digits : List Char) : Nat :=
  let kept := digits.take 9
  Decimal.ofDigits kept * Nat.pow 10 (9 - kept.length)

def timeOfDay : Scanner Clock := do
  let hour ← field 2 23
  mark ':'
  let minute ← field 2 59
  if !(← startsWith ':') then return ⟨hour, minute, none, none⟩
  let second ← field 2 60
  if !(← startsWith '.') then return ⟨hour, minute, some second, none⟩
  let digits := (← get).takeWhile Decimal.isDigit
  guard !digits.isEmpty
  modify (·.drop digits.length)
  return ⟨hour, minute, some second, some (nanos digits)⟩

def offset : Scanner (Option Offset) := do
  match ← get with
  | [] => return none
  | c :: rest =>
    set rest
    if c = 'Z' ∨ c = 'z' then return some .utc
    guard (c = '+' ∨ c = '-')
    let hours ← field 2 23
    mark ':'
    let minutes ← field 2 59
    let ahead : Int := hours * 60 + minutes
    return some (.minutes (if c = '-' then -ahead else ahead))

def scan : Scanner Stamp := do
  if (← get)[2]? = some ':' then return .clock (← timeOfDay)
  let date ← calendarDate
  match ← get with
  | [] => return .date date
  | c :: rest =>
    guard (c = 'T' ∨ c = 't' ∨ c = ' ')
    set rest
    let clock ← timeOfDay
    return .dateTime date clock (← offset)

def read? (cs : List Char) : Option Stamp := do
  let (stamp, rest) ← scan cs
  guard rest.isEmpty
  return stamp

/-- Whether a text has the shape of a date, which a blank and a time of day may follow. -/
def isDateShaped (cs : List Char) : Bool :=
  match cs with
  | [a, b, c, d, '-', e, f, '-', g, h] => [a, b, c, d, e, f, g, h].all Decimal.isDigit
  | _ => false

end Stamp

def fractionDigits (nano : Nat) : String :=
  let kept := ((padded 9 nano).toList.reverse.dropWhile (· = '0')).reverse
  if kept.isEmpty then "0" else String.ofList kept

def dateText (d : Date) : String :=
  padded 4 d.year.toNat ++ "-" ++ padded 2 d.month ++ "-" ++ padded 2 d.day

def Clock.text (c : Clock) : String :=
  padded 2 c.hour ++ ":" ++ padded 2 c.minute
    ++ (match c.second with | some s => ":" ++ padded 2 s | none => "")
    ++ (match c.nano with | some n => "." ++ fractionDigits n | none => "")

def Offset.text : Offset → String
  | .utc => "Z"
  | .minutes ahead =>
    (if ahead < 0 then "-" else "+") ++ padded 2 (ahead.natAbs / 60) ++ ":" ++
      padded 2 (ahead.natAbs % 60)

def Stamp.text : Stamp → String
  | .date d => dateText d
  | .clock c => c.text
  | .dateTime d c ahead =>
    dateText d ++ "T" ++ c.text ++ (match ahead with | some o => o.text | none => "")

end FrontDoor.Toml
