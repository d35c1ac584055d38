namespace FrontDoor.Decimal

structure Binary where
  significand : Nat
  exponent : Int
  narrowBelow : Bool

inductive Decoded where
  | nan
  | infinite (negative : Bool)
  | finite (negative : Bool) (magnitude : Binary)

def decode (x : Float) : Decoded :=
  let bits := x.toBits.toNat
  let negative : Bool := bits / 0x8000000000000000 = 1
  let biased : Nat := bits / 0x10000000000000 % 0x800
  let fraction : Nat := bits % 0x10000000000000
  if biased = 2047 then
    if fraction = 0 then .infinite negative else .nan
  else if biased = 0 then .finite negative ⟨fraction, -1074, false⟩
  else .finite negative ⟨fraction + 0x10000000000000, (biased : Int) - 1075, fraction = 0 ∧ 1 < biased⟩

structure Scaled where
  digits : Nat
  exponent : Int
deriving DecidableEq, Repr

def digitCount (n : Nat) : Nat := (Nat.toDigits 10 n).length

/-- The `k` with `10 ^ (k - 1) ≤ num / den < 10 ^ k`, for a positive ratio. -/
def magnitude (num den : Nat) : Int :=
  if den ≤ num then digitCount (num / den)
  else
    let d := digitCount (den / num)
    if num * Nat.pow 10 (d - 1) = den then 2 - d else 1 - d

/-- The decimal with `n` digits that lies in the interval of `b`, the nearer one if both neighbours
do. -/
def atPrecision (b : Binary) (k : Int) (n : Nat) : Option Scaled :=
  let place := k - n
  let up := Nat.pow 2 (b.exponent - 2).toNat * Nat.pow 10 (-place).toNat
  let den := Nat.pow 2 (2 - b.exponent).toNat * Nat.pow 10 place.toNat
  let value := 4 * b.significand * up
  let low := (4 * b.significand - if b.narrowBelow then 1 else 2) * up
  let high := (4 * b.significand + 2) * up
  let closed := b.significand % 2 = 0
  let inside (c : Nat) : Bool :=
    if closed then low ≤ c * den ∧ c * den ≤ high else low < c * den ∧ c * den < high
  let below := value / den
  let above := below + 1
  let pick : Option Nat :=
    if inside below then
      if inside above ∧ (above * den - value < value - below * den
          ∨ above * den - value = value - below * den ∧ below % 2 = 1) then some above
      else some below
    else if inside above then some above
    else none
  pick.map fun c ↦ ⟨c, place⟩

def Scaled.trim (s : Scaled) : Scaled :=
  if h : s.digits ≠ 0 ∧ s.digits % 10 = 0 then
    (Scaled.mk (s.digits / 10) (s.exponent + 1)).trim
  else s
termination_by s.digits
decreasing_by exact Nat.div_lt_self (Nat.pos_of_ne_zero h.1) (by omega)

def shortest (b : Binary) : Scaled :=
  if b.significand = 0 then ⟨0, 0⟩
  else
    let num := b.significand * Nat.pow 2 b.exponent.toNat
    let den := Nat.pow 2 (-b.exponent).toNat
    let k := magnitude num den
    match (List.range 17).findSome? fun i ↦ atPrecision b k (i + 1) with
    | some s => s.trim
    | none => ⟨b.significand, b.exponent⟩

end FrontDoor.Decimal
