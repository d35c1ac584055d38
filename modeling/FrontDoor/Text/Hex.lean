namespace FrontDoor.Text

def hexChar (d : Fin 16) : Char := Nat.digitChar d

def lastHexDigit (n : Nat) : Fin 16 := Fin.ofNat 16 n

def hexDigit? (c : Char) : Option (Fin 16) :=
  if '0' ≤ c ∧ c ≤ '9' then some (lastHexDigit (c.toNat - '0'.toNat))
  else if 'a' ≤ c ∧ c ≤ 'f' then some (lastHexDigit (c.toNat - 'a'.toNat + 10))
  else if 'A' ≤ c ∧ c ≤ 'F' then some (lastHexDigit (c.toNat - 'A'.toNat + 10))
  else none

theorem hexDigit?_hexChar (d : Fin 16) : hexDigit? (hexChar d) = some d := by
  revert d; decide

theorem mapM_hexDigit?_hexChar (ds : List (Fin 16)) :
    (ds.map hexChar).mapM hexDigit? = some ds := by
  induction ds with
  | nil => rfl
  | cons d ds ih =>
    rw [List.map_cons, List.mapM_cons, hexDigit?_hexChar, ih]
    rfl

def hexNumber? (cs : List Char) : Option Nat :=
  (cs.mapM hexDigit?).map fun ds ↦ ds.foldl (fun n d ↦ n * 16 + d.val) 0

end FrontDoor.Text
