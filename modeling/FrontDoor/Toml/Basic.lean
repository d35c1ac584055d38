import FrontDoor.Text.Hex
import FrontDoor.Toml.Stamp

namespace FrontDoor

inductive Toml where
  | text (value : String)
  | int (value : Int)
  | double (value : Float)
  | bool (value : Bool)
  | stamp (value : Toml.Stamp)
  | list (items : List Toml)
  | table (members : List (String × Toml))

instance : Inhabited Toml := ⟨.bool false⟩

namespace Toml

def grouped? (isDigit : Char → Bool) : List Char → Option (List Char)
  | [] => none
  | [c] => if isDigit c then some [c] else none
  | c :: '_' :: rest => if isDigit c then (grouped? isDigit rest).map (c :: ·) else none
  | c :: rest => if isDigit c then (grouped? isDigit rest).map (c :: ·) else none

def digitBelow? (base : Nat) (c : Char) : Option Nat :=
  ((Text.hexDigit? c).map Fin.val).filter (· < base)

def inBase? (base : Nat) (cs : List Char) : Option Nat := do
  let digits ← (← grouped? (fun c ↦ (digitBelow? base c).isSome) cs).mapM (digitBelow? base)
  return digits.foldl (fun n d ↦ n * base + d) 0

def withBase? : List Char → Option Nat
  | '0' :: 'x' :: rest => inBase? 16 rest
  | '0' :: 'o' :: rest => inBase? 8 rest
  | '0' :: 'b' :: rest => inBase? 2 rest
  | _ => none

def wholeDigits? (cs : List Char) : Option (List Char) := do
  let digits ← grouped? Decimal.isDigit cs
  guard (digits = ['0'] ∨ digits.head? ≠ some '0')
  return digits

def splitSign : List Char → Bool × List Char
  | '-' :: rest => (true, rest)
  | '+' :: rest => (false, rest)
  | cs => (false, cs)

def int? (cs : List Char) : Option Int := do
  let (negative, body) := splitSign cs
  let n : Int := Decimal.ofDigits (← wholeDigits? body)
  return if negative then -n else n

/-- A number with a fraction, an exponent or both, or a word for one that is not finite. -/
def double? (cs : List Char) : Option Float := do
  let (negative, body) := splitSign cs
  let signed (x : Float) : Float := if negative then -x else x
  if body = ['i', 'n', 'f'] then return signed (1.0 / 0.0)
  if body = ['n', 'a', 'n'] then return signed (0.0 / 0.0)
  let isExponentMark (c : Char) : Bool := c = 'e' || c = 'E'
  let mantissa := body.takeWhile fun c ↦ !isExponentMark c
  let whole ← wholeDigits? (mantissa.takeWhile (· ≠ '.'))
  let fraction ← match mantissa.dropWhile (· ≠ '.') with
    | [] => some []
    | _ :: digits => grouped? Decimal.isDigit digits
  let exponent : Int ← match body.dropWhile fun c ↦ !isExponentMark c with
    | [] => some 0
    | _ :: power => do
      let (below, digits) := splitSign power
      let n : Int := Decimal.ofDigits (← grouped? Decimal.isDigit digits)
      some (if below then -n else n)
  return Decimal.nearest negative (Decimal.ofDigits (whole ++ fraction)) (exponent - fraction.length)

def bare? (cs : List Char) : Option Toml :=
  if cs = ['t', 'r', 'u', 'e'] then some (.bool true)
  else if cs = ['f', 'a', 'l', 's', 'e'] then some (.bool false)
  else
    ((withBase? cs).map fun n ↦ .int n) <|> (int? cs).map .int <|> (double? cs).map .double
      <|> (Stamp.read? cs).map .stamp

end Toml

end FrontDoor
