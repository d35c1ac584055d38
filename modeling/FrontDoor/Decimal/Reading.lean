namespace FrontDoor.Decimal

def isDigit (c : Char) : Bool := '0' ≤ c ∧ c ≤ '9'

def digitValue (c : Char) : Nat := c.toNat - '0'.toNat

def ofDigits (cs : List Char) : Nat := cs.foldl (fun n c ↦ n * 10 + digitValue c) 0

def natural? (cs : List Char) : Option Nat :=
  if !cs.isEmpty && cs.all isDigit then some (ofDigits cs) else none

/-- The double nearest to `digits * 10 ^ exponent`; beyond the largest double it is infinite. -/
def nearest (negative : Bool) (digits : Nat) (exponent : Int) : Float :=
  let size : Int := (Nat.toDigits 10 digits).length
  let magnitude : Float :=
    if digits = 0 then 0.0
    else if 400 < size + exponent then 1.0 / 0.0
    else if size + exponent < -400 then 0.0
    else Float.ofScientific digits (exponent < 0) exponent.natAbs
  if negative then -magnitude else magnitude

theorem isDigit_eq (c : Char) : isDigit c = c.isDigit := by
  rw [Bool.eq_iff_iff, isDigit, Char.isDigit, decide_eq_true_eq, Bool.and_eq_true, decide_eq_true_eq,
    decide_eq_true_eq]
  exact Iff.rfl

theorem isDigit_of_mem_toDigits {c : Char} {n : Nat} (h : c ∈ Nat.toDigits 10 n) : isDigit c = true :=
  (isDigit_eq c).trans (Nat.isDigit_of_mem_toDigits (by decide) (by decide) h)

theorem ofDigits_toDigits (n : Nat) : ofDigits (Nat.toDigits 10 n) = n := by
  have hfold (cs : List Char) (m : Nat) :
      cs.foldl (fun n c ↦ n * 10 + digitValue c) m = Nat.ofDigitChars 10 cs m := by
    induction cs generalizing m with
    | nil => rfl
    | cons c cs ih => rw [List.foldl_cons, Nat.ofDigitChars_cons, ih, digitValue, Nat.mul_comm]
  rw [ofDigits, hfold, Nat.ofDigitChars_ten_toDigits]

theorem exists_toDigits_eq_cons {n : Nat} (h : 0 < n) :
    ∃ c cs, Nat.toDigits 10 n = c :: cs ∧ c ≠ '0' := by
  induction n using Nat.strongRecOn with
  | ind n ih =>
    by_cases hsmall : n < 10
    · have hall : ∀ n < 10, 0 < n → n.digitChar ≠ '0' := by decide
      exact ⟨n.digitChar, [], Nat.toDigits_of_lt_base hsmall, hall n hsmall h⟩
    · obtain ⟨c, cs, hcs, hc⟩ := ih (n / 10) (by omega) (by omega)
      refine ⟨c, cs ++ [(n % 10).digitChar], ?_, hc⟩
      rw [Nat.toDigits_of_base_le (by decide) (by omega), hcs, List.cons_append]

/-- A number written with digits, a point and an exponent, without a sign: its digits and power of
ten. -/
def unsigned? (cs : List Char) : Option (Nat × Int) := do
  let whole := cs.takeWhile isDigit
  let (fraction, rest) :=
    match cs.dropWhile isDigit with
    | '.' :: rest => (rest.takeWhile isDigit, rest.dropWhile isDigit)
    | rest => ([], rest)
  if whole.isEmpty && fraction.isEmpty then none
  let digits := ofDigits (whole ++ fraction)
  match rest with
  | [] => return (digits, -fraction.length)
  | e :: rest =>
    if e ≠ 'e' ∧ e ≠ 'E' then none
    let power : Int ← match rest with
      | '-' :: ds => (natural? ds).map fun n ↦ -(n : Int)
      | '+' :: ds => (natural? ds).map fun n ↦ (n : Int)
      | ds => (natural? ds).map fun n ↦ (n : Int)
    return (digits, power - fraction.length)

/-- A double as settings and command lines write it; words for infinity and for no number are taken
in any case. -/
def float? (cs : List Char) : Option Float :=
  let (negative, body) :=
    match cs with
    | '-' :: rest => (true, rest)
    | '+' :: rest => (false, rest)
    | rest => (false, rest)
  let word := String.ofList (body.map Char.toLower)
  let signed (x : Float) : Float := if negative then -x else x
  if word = "inf" ∨ word = "infinity" then some (signed (1.0 / 0.0))
  else if word = "nan" then some (signed (0.0 / 0.0))
  else (unsigned? body).map fun (digits, power) ↦ nearest negative digits power

def integer? (cs : List Char) : Option Int :=
  match cs with
  | '-' :: ds => (natural? ds).map fun n ↦ -(n : Int)
  | '+' :: ds => (natural? ds).map fun n ↦ (n : Int)
  | ds => (natural? ds).map fun n ↦ (n : Int)

end FrontDoor.Decimal
