import FrontDoor.Decimal.Reading
import FrontDoor.Text.Hex
import FrontDoor.Text.Split

namespace FrontDoor.Http.Query

def unescape : List Char → List Char
  | '+' :: cs => ' ' :: unescape cs
  | '%' :: a :: b :: cs =>
    match Text.hexNumber? [a, b] with
    | some n => Char.ofNat n :: unescape cs
    | none => '%' :: unescape (a :: b :: cs)
  | c :: cs => c :: unescape cs
  | [] => []

/-- The pairs of a query string; a name without a value has the empty value. -/
def pairs (query : String) : List (List Char × List Char) :=
  ((Text.split '&' query.toList).filter (!·.isEmpty)).map fun p ↦
    (unescape (p.takeWhile (· ≠ '=')), unescape ((p.dropWhile (· ≠ '=')).drop 1))

inductive NumberFault where
  | empty
  | invalidDigit
  | tooLarge
deriving DecidableEq

def NumberFault.message : NumberFault → String
  | empty => "cannot parse integer from empty string"
  | invalidDigit => "invalid digit found in string"
  | tooLarge => "number too large to fit in target type"

def readDigits (bound : Nat) : Nat → List Char → Except NumberFault Nat
  | n, [] => .ok n
  | n, c :: cs =>
    if !Decimal.isDigit c then .error .invalidDigit
    else
      let n := n * 10 + Decimal.digitValue c
      if n < bound then readDigits bound n cs else .error .tooLarge

def readNatural (bound : Nat) (cs : List Char) : Except NumberFault Nat :=
  match cs with
  | [] => .error .empty
  | ['+'] => .error .invalidDigit
  | '+' :: digits => readDigits bound 0 digits
  | digits => readDigits bound 0 digits

/-- The number under a name that may appear once; other names do not matter. -/
def number? (name : String) (bound : Nat) :
    List (List Char × List Char) → Option Nat → Except String (Option Nat)
  | [], found => .ok found
  | (key, value) :: rest, found =>
    if key ≠ name.toList then number? name bound rest found
    else if found.isSome then .error ("duplicate field `" ++ name ++ "`")
    else
      match readNatural bound value with
      | .ok n => number? name bound rest (some n)
      | .error fault => .error (name ++ ": " ++ fault.message)

end FrontDoor.Http.Query
