import FrontDoor.Http.Query
import Mathlib.Data.List.Basic

namespace FrontDoor.Http.Query

theorem split_eq_singleton {sep : Char} {cs : List Char} (h : sep ∉ cs) :
    Text.split sep cs = [cs] := by
  rw [Text.split_eq_splitOn, List.splitOn_eq_singleton h]

def isPlain (c : Char) : Bool := c ≠ '&' && c ≠ '=' && c ≠ '+' && c ≠ '%'

theorem isPlain_iff {c : Char} : isPlain c = true ↔ c ≠ '&' ∧ c ≠ '=' ∧ c ≠ '+' ∧ c ≠ '%' := by
  simp only [isPlain, Bool.and_eq_true, decide_eq_true_eq, and_assoc]

theorem isPlain_of_isDigit {c : Char} (h : c.isDigit = true) : isPlain c = true := by
  refine isPlain_iff.2 ⟨?_, ?_, ?_, ?_⟩ <;> rintro rfl <;> cases h

theorem unescape_eq_self {cs : List Char} (h : ∀ c ∈ cs, c ≠ '+' ∧ c ≠ '%') : unescape cs = cs := by
  induction cs with
  | nil => rfl
  | cons c cs ih =>
    obtain ⟨hplus, hpercent⟩ := h c List.mem_cons_self
    have hcs := ih fun d hd ↦ h d (List.mem_cons_of_mem c hd)
    rw [unescape, hcs]
    · exact hplus
    · rintro a b ds rfl
      exact absurd rfl hpercent

theorem le_ofDigitChars (cs : List Char) (n : Nat) : n ≤ Nat.ofDigitChars 10 cs n := by
  induction cs generalizing n with
  | nil => exact Nat.le_refl n
  | cons c cs ih =>
    rw [Nat.ofDigitChars_cons]
    have hnext := ih (10 * n + (c.toNat - '0'.toNat))
    omega

theorem readDigits_eq_ok {bound n : Nat} {cs : List Char} (hdigits : ∀ c ∈ cs, c.isDigit = true)
    (hbound : Nat.ofDigitChars 10 cs n < bound) :
    readDigits bound n cs = .ok (Nat.ofDigitChars 10 cs n) := by
  induction cs generalizing n with
  | nil => rfl
  | cons c cs ih =>
    have hdigit : Decimal.isDigit c = true :=
      (Decimal.isDigit_eq c).trans (hdigits c List.mem_cons_self)
    have hnext : n * 10 + Decimal.digitValue c = 10 * n + (c.toNat - '0'.toNat) := by
      rw [Decimal.digitValue, Nat.mul_comm]
    rw [Nat.ofDigitChars_cons] at hbound ⊢
    rw [readDigits, hdigit, if_neg (by simp), hnext]
    -- What is read so far is at most the whole number, so no digit is refused.
    have hroom := Nat.lt_of_le_of_lt (le_ofDigitChars cs _) hbound
    rw [if_pos hroom]
    exact ih (fun d hd ↦ hdigits d (List.mem_cons_of_mem c hd)) hbound

theorem readNatural_toDigits {bound n : Nat} (h : n < bound) :
    readNatural bound (Nat.toDigits 10 n) = .ok n := by
  have hdigits : ∀ c ∈ Nat.toDigits 10 n, c.isDigit = true :=
    fun c hc ↦ Nat.isDigit_of_mem_toDigits (by decide) (by decide) hc
  have hread : readDigits bound 0 (Nat.toDigits 10 n) = .ok n := by
    rw [readDigits_eq_ok hdigits (by rwa [Nat.ofDigitChars_ten_toDigits]),
      Nat.ofDigitChars_ten_toDigits]
  have hplus : '+' ∉ Nat.toDigits 10 n := fun hmem ↦ by
    have hfalse := hdigits '+' hmem
    cases hfalse
  rw [readNatural]
  · exact hread
  · intro hnil
    have hpos : 0 < (Nat.toDigits 10 n).length := Nat.length_toDigits_pos
    rw [hnil] at hpos
    cases hpos
  · intro hsign
    exact hplus (hsign ▸ List.mem_cons_self)
  · intro digits hsign
    exact hplus (hsign ▸ List.mem_cons_self)

theorem number?_singleton {name : String} {bound n : Nat} {value : List Char}
    (h : readNatural bound value = .ok n) :
    number? name bound [(name.toList, value)] none = .ok (some n) := by
  rw [number?, if_neg (not_not.2 rfl), h]
  rfl

theorem pairs_single {query : String} {key value : List Char}
    (hquery : query.toList = key ++ '=' :: value) (hkey : key.all isPlain = true)
    (hvalue : value.all isPlain = true) : pairs query = [(key, value)] := by
  have hplain {cs : List Char} (h : cs.all isPlain = true) {c : Char} (hc : c ∈ cs) :
      c ≠ '&' ∧ c ≠ '=' ∧ c ≠ '+' ∧ c ≠ '%' := isPlain_iff.1 (List.all_eq_true.1 h c hc)
  have hsingle : '&' ∉ key ++ '=' :: value := by
    intro hmem
    rcases List.mem_append.1 hmem with hmem | hmem
    · exact (hplain hkey hmem).1 rfl
    · rcases List.mem_cons.1 hmem with heq | hmem
      · cases heq
      · exact (hplain hvalue hmem).1 rfl
  have hname : ∀ c ∈ key, decide (c ≠ '=') = true := fun c hc ↦ decide_eq_true (hplain hkey hc).2.1
  have hempty : (key ++ '=' :: value).isEmpty = false := by simp
  rw [pairs, hquery, split_eq_singleton hsingle, List.filter_singleton, hempty]
  simp only [Bool.not_false, cond_true, List.map_singleton]
  rw [List.takeWhile_append_of_pos hname, List.dropWhile_append_of_pos hname]
  have hbefore := unescape_eq_self fun c hc ↦ (hplain hkey hc).2.2
  have hbehind := unescape_eq_self fun c hc ↦ (hplain hvalue hc).2.2
  simp [hbefore, hbehind]

theorem number?_pairs_number {name : String} {bound n : Nat} (hname : name.toList.all isPlain = true)
    (hn : n < bound) :
    number? name bound (pairs (name ++ "=" ++ toString n)) none = .ok (some n) := by
  have hchars : (name ++ "=" ++ toString n).toList = name.toList ++ '=' :: Nat.toDigits 10 n := by
    rw [String.toList_append, String.toList_append, List.append_assoc]
    exact congrArg (name.toList ++ '=' :: ·) Nat.toList_repr
  have hdigits : (Nat.toDigits 10 n).all isPlain = true := by
    refine List.all_eq_true.2 fun c hc ↦ isPlain_of_isDigit ?_
    exact Nat.isDigit_of_mem_toDigits (by decide) (by decide) hc
  rw [pairs_single hchars hname hdigits]
  exact number?_singleton (readNatural_toDigits hn)

end FrontDoor.Http.Query
