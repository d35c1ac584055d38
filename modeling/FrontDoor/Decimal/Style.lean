import FrontDoor.Decimal.Shortest

namespace FrontDoor.Decimal

structure Style where
  positional : Option (Int × Int)
  marksWhole : Bool
  signsExponent : Bool
  exponentDigits : Nat
  nan : String
  infinity : String

def plain : Style := ⟨none, false, false, 1, "NaN", "inf"⟩

def outline : Style := ⟨some (-4, 15), true, false, 1, "NaN", "inf"⟩

def json : Style := ⟨some (-5, 15), true, true, 2, "null", "null"⟩

def zeros (n : Nat) : String := String.ofList (List.replicate n '0')

def positionalText (digits : String) (exponent : Int) (marksWhole : Bool) : String :=
  if 0 ≤ exponent then
    digits ++ zeros exponent.toNat ++ if marksWhole then ".0" else ""
  else
    let places := (-exponent).toNat
    let padded := zeros (places + 1 - digits.length) ++ digits
    let whole := padded.length - places
    String.ofList (padded.toList.take whole) ++ "." ++ String.ofList (padded.toList.drop whole)

def scientificText (style : Style) (digits : String) (exponent : Int) : String :=
  let power := exponent + digits.length - 1
  let mantissa :=
    match digits.toList with
    | d :: rest@(_ :: _) => String.ofList (d :: '.' :: rest)
    | _ => digits
  let size := toString power.natAbs
  mantissa ++ "e" ++ (if power < 0 then "-" else if style.signsExponent then "+" else "")
    ++ zeros (style.exponentDigits - size.length) ++ size

def Style.magnitudeText (style : Style) (s : Scaled) : String :=
  let digits := toString s.digits
  let power := s.exponent + digits.length - 1
  match style.positional with
  | none => positionalText digits s.exponent style.marksWhole
  | some (least, greatest) =>
    if s.digits = 0 ∨ least ≤ power ∧ power ≤ greatest then
      positionalText digits s.exponent style.marksWhole
    else scientificText style digits s.exponent

def Style.write (style : Style) (x : Float) : String :=
  match decode x with
  | .nan => style.nan
  | .infinite negative => (if negative then "-" else "") ++ style.infinity
  | .finite negative b => (if negative then "-" else "") ++ style.magnitudeText (shortest b)

end FrontDoor.Decimal
