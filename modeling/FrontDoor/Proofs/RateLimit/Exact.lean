import FrontDoor.RateLimit.Limiter
import Mathlib.Data.Rat.Floor
import Mathlib.Tactic.Linarith

namespace FrontDoor.RateLimit

instance : Amount ℚ where
  ofNat n := n
  seconds nanos := nanos / 1000000000
  add := (· + ·)
  sub := (· - ·)
  mul := (· * ·)
  capped := min
  le x y := x ≤ y
  lt x y := x < y
  floor x := min ⌊x⌋.toNat 0xffffffff
  secondsPerToken rate := min (max ⌈1 / rate⌉.toNat 1) 0xffffffffffffffff

variable {l : Limits ℚ} {b : Bucket ℚ} {s t now : ℕ}

namespace Bucket

theorem tokens_refill (b : Bucket ℚ) (l : Limits ℚ) (t : ℕ) :
    (b.refill l t).tokens =
      min (b.tokens + ((t - b.refilled : ℕ) : ℚ) / 1000000000 * l.rate) l.cap := rfl

theorem refilled_refill (b : Bucket ℚ) (l : Limits ℚ) (t : ℕ) : (b.refill l t).refilled = t := rfl

theorem tokens_refill_le (b : Bucket ℚ) (l : Limits ℚ) (t : ℕ) :
    (b.refill l t).tokens ≤ l.cap := min_le_right _ _

theorem restored_nonneg {rate : ℚ} (hrate : 0 ≤ rate) (span : ℕ) :
    0 ≤ (span : ℚ) / 1000000000 * rate :=
  mul_nonneg (div_nonneg span.cast_nonneg (by norm_num)) hrate

/-- A refill at one instant and another one later restore what the later one alone does. -/
theorem refill_refill (hrate : 0 ≤ l.rate) (hs : b.refilled ≤ s) (ht : s ≤ t) :
    (b.refill l s).refill l t = b.refill l t := by
  have hspan : ((t - b.refilled : ℕ) : ℚ) = ((s - b.refilled : ℕ) : ℚ) + ((t - s : ℕ) : ℚ) := by
    rw [← Nat.cast_add]
    congr 1
    omega
  have hlater := restored_nonneg hrate (t - s)
  have htokens : ((b.refill l s).refill l t).tokens = (b.refill l t).tokens := by
    rw [tokens_refill, tokens_refill, tokens_refill, refilled_refill, hspan, add_div, add_mul,
      ← add_assoc, ← min_add_add_right, min_assoc, min_eq_right (le_add_of_nonneg_right hlater)]
  exact congrArg (Bucket.mk · t) htokens

theorem refill_full (hrate : 0 ≤ l.rate) (s t : ℕ) : (full l s).refill l t = full l t := by
  have htokens : ((full l s).refill l t).tokens = l.cap :=
    min_eq_right (le_add_of_nonneg_right (restored_nonneg hrate (t - s)))
  exact congrArg (Bucket.mk · t) htokens

theorem tokens_refill_of_full (hrate : 0 ≤ l.rate) (hs : b.refilled ≤ s) (ht : s ≤ t)
    (hfull : l.cap ≤ (b.refill l s).tokens) : (b.refill l t).tokens = l.cap := by
  rw [← refill_refill hrate hs ht, tokens_refill]
  exact min_eq_right (hfull.trans (le_add_of_nonneg_right (restored_nonneg hrate _)))

end Bucket

/-- The tokens that a client could draw on at a clock reading; one without a bucket has a full one. -/
def balance (l : Limits ℚ) (found : Option (Bucket ℚ)) (t : ℕ) : ℚ :=
  match found with
  | some b => (b.refill l t).tokens
  | none => l.cap

/-- A bucket, if there is one, was last refilled no later than this. -/
def RefilledBy (found : Option (Bucket ℚ)) (t : ℕ) : Prop := ∀ b ∈ found, b.refilled ≤ t

theorem balance_le (l : Limits ℚ) (found : Option (Bucket ℚ)) (t : ℕ) : balance l found t ≤ l.cap := by
  cases found with
  | none => exact le_rfl
  | some b => exact b.tokens_refill_le l t

theorem balance_getD (hrate : 0 ≤ l.rate) (found : Option (Bucket ℚ)) (s t : ℕ) :
    balance l (some (found.getD (Bucket.full l s))) t = balance l found t := by
  cases found with
  | none => exact congrArg Bucket.tokens (Bucket.refill_full hrate s t)
  | some b => rfl

theorem balance_refill (hrate : 0 ≤ l.rate) {found : Option (Bucket ℚ)} (hfound : RefilledBy found s)
    (ht : s ≤ t) :
    balance l (found.map (·.refill l s)) t = balance l found t := by
  cases found with
  | none => rfl
  | some b => exact congrArg Bucket.tokens (Bucket.refill_refill hrate (hfound b rfl) ht)

theorem get?_sweep (l : Limits ℚ) (now : ℕ) (d : Dict (Bucket ℚ)) (key : String) :
    (sweep l now d).get? key =
      ((d.get? key).map (·.refill l now)).filter fun b ↦ b.tokens < l.cap := by
  have hfilter := Dict.find_filter (refillAll l now d).ascending
      (fun b ↦ decide (b.tokens < l.cap)) key
  exact hfilter.trans (congrArg (Option.filter _) (Dict.get?_mapValues d _ key))

theorem balance_sweep (hrate : 0 ≤ l.rate) {d : Dict (Bucket ℚ)} {key : String}
    (hfound : RefilledBy (d.get? key) now) (ht : now ≤ t) :
    balance l ((sweep l now d).get? key) t = balance l (d.get? key) t := by
  rw [get?_sweep]
  cases hb : d.get? key with
  | none => rfl
  | some b =>
    have hb' : b.refilled ≤ now := hfound b hb
    by_cases hlow : (b.refill l now).tokens < l.cap
    · simp only [Option.map_some, Option.filter_some, hlow, decide_true, if_true]
      exact congrArg Bucket.tokens (Bucket.refill_refill hrate hb' ht)
    · simp only [Option.map_some, Option.filter_some, hlow, decide_false, Bool.false_eq_true, if_false]
      exact (Bucket.tokens_refill_of_full hrate hb' ht (not_lt.1 hlow)).symm

theorem refilledBy_sweep (d : Dict (Bucket ℚ)) (key : String) :
    RefilledBy ((sweep l now d).get? key) now := by
  intro b hb
  rw [get?_sweep] at hb
  obtain ⟨b₀, -, rfl⟩ := Option.map_eq_some_iff.1 (Option.filter_eq_some_iff.1 hb).1
  exact le_rfl

end FrontDoor.RateLimit
