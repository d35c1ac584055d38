import FrontDoor.Proofs.RateLimit.Reference
import Mathlib.Data.List.Induction

namespace FrontDoor.RateLimit

variable {l : Limits ℚ} {b : Bucket ℚ} {bs : Buckets ℚ} {key : String} {now : ℕ} {calls : Schedule}

namespace Bucket

structure Sound (l : Limits ℚ) (b : Bucket ℚ) : Prop where
  nonneg : 0 ≤ b.tokens
  le_cap : b.tokens ≤ l.cap

theorem sound_full (l : Limits ℚ) (t : ℕ) : (full l t).Sound l := ⟨Nat.cast_nonneg l.maxTokens, le_rfl⟩

theorem Sound.refill (hrate : 0 ≤ l.rate) (h : b.Sound l) (t : ℕ) : (b.refill l t).Sound l := by
  have hmore := restored_nonneg hrate (t - b.refilled)
  have hcap := h.nonneg.trans h.le_cap
  exact ⟨le_min (add_nonneg h.nonneg hmore) hcap, b.tokens_refill_le l t⟩

theorem Sound.take (h : b.Sound l) : b.take.2.Sound l := by
  have htokens := b.tokens_take
  by_cases hone : 1 ≤ b.tokens
  · rw [if_pos hone] at htokens
    refine ⟨?_, ?_⟩
    · rw [htokens]
      exact sub_nonneg.2 hone
    · rw [htokens]
      exact (sub_le_self _ zero_le_one).trans h.le_cap
  · rw [if_neg hone] at htokens
    exact ⟨htokens ▸ h.nonneg, htokens ▸ h.le_cap⟩

theorem Sound.floor_tokens (hmax : l.maxTokens < 2 ^ 32) (h : b.Sound l) :
    Amount.floor b.tokens = ⌊b.tokens⌋₊ := by
  have hle : ⌊b.tokens⌋₊ ≤ l.maxTokens := Nat.floor_le_of_le h.le_cap
  have hbits : ⌊b.tokens⌋.toNat ≤ 0xffffffff := by
    rw [Int.floor_toNat]
    omega
  have hmin : Amount.floor b.tokens = ⌊b.tokens⌋.toNat := min_eq_left hbits
  rw [hmin, Int.floor_toNat]

end Bucket

namespace Buckets

def Sound (l : Limits ℚ) (bs : Buckets ℚ) : Prop := ∀ key b, bs.byClient.get? key = some b → b.Sound l

theorem sound_empty (l : Limits ℚ) : (empty : Buckets ℚ).Sound l := by
  intro key b hb
  cases hb

theorem sound_sweep (hrate : 0 ≤ l.rate) (h : bs.Sound l) (now : ℕ) {key : String} {b : Bucket ℚ}
    (hb : (sweep l now bs.byClient).get? key = some b) : b.Sound l := by
  rw [get?_sweep] at hb
  obtain ⟨b₀, hb₀, rfl⟩ := Option.map_eq_some_iff.1 (Option.filter_eq_some_iff.1 hb).1
  exact (h key b₀ hb₀).refill hrate now

theorem Sound.prepare (hrate : 0 ≤ l.rate) (h : bs.Sound l) (now : ℕ) (key : String) :
    (bs.prepare l now key).Sound l := by
  intro k b hb
  rcases prepare_cases bs l now key with heq | heq
  · rw [heq] at hb
    exact h k b hb
  · rw [heq] at hb
    exact sound_sweep hrate h now hb

theorem Sound.drawn (hrate : 0 ≤ l.rate) (h : bs.Sound l) (now : ℕ) (key : String) :
    (bs.drawn l now key).Sound l := by
  have hfound : (((bs.prepare l now key).byClient.get? key).getD (Bucket.full l now)).Sound l := by
    cases hb : (bs.prepare l now key).byClient.get? key with
    | none => exact Bucket.sound_full l now
    | some b => exact h.prepare hrate now key key b hb
  exact hfound.refill hrate now

theorem Sound.after (hrate : 0 ≤ l.rate) (h : bs.Sound l) (now : ℕ) (call : Call) :
    (bs.after l now call).Sound l := by
  intro k b hb
  cases call with
  | check key =>
    rw [Buckets.after, check_eq, Dict.get?_insert] at hb
    split at hb
    · cases hb
      exact (h.drawn hrate now key).take
    · exact h.prepare hrate now key k b hb
  | status key =>
    rw [Buckets.after, get?_status] at hb
    split at hb
    · obtain ⟨b₀, hb₀, rfl⟩ := Option.map_eq_some_iff.1 hb
      exact (h k b₀ hb₀).refill hrate now
    · exact h k b hb
  | prune => exact sound_sweep hrate h now hb

theorem sound_afterAll (hrate : 0 ≤ l.rate) (calls : Schedule) : (empty.afterAll l calls).Sound l := by
  induction calls using List.reverseRecOn with
  | nil => exact sound_empty l
  | append_singleton calls c ih =>
    rw [afterAll_append]
    exact ih.after hrate c.1 c.2

theorem settledBy_afterAll (hcalls : calls.Timely) (hnow : ∀ c ∈ calls, c.1 ≤ now) :
    (empty.afterAll l calls).SettledBy now := by
  induction calls using List.reverseRecOn generalizing now with
  | nil => exact settledBy_empty now
  | append_singleton calls c ih =>
    obtain ⟨hearlier, -, hlast⟩ := List.pairwise_append.1 hcalls
    have hsettled := ih hearlier fun a ha ↦ hlast a ha c List.mem_cons_self
    have hc : c.1 ≤ now := hnow c (by simp)
    rw [afterAll_append]
    exact (settledBy_after hsettled c.2).mono hc

theorem balance_check_now (hrate : 0 ≤ l.rate) (h : bs.SettledBy now) (key : String) :
    balance l ((bs.check l now key).2.byClient.get? key) now =
      if 1 ≤ balance l (bs.byClient.get? key) now then balance l (bs.byClient.get? key) now - 1
      else balance l (bs.byClient.get? key) now := by
  have hle := balance_le l (bs.byClient.get? key) now
  rw [balance_check_self hrate h, Nat.sub_self, Nat.cast_zero, zero_div, zero_mul, add_zero]
  apply min_eq_left
  split
  · exact (sub_le_self _ zero_le_one).trans hle
  · exact hle

/-- Checks in a row at one instant: first as many admitted ones as there are whole tokens, then
refused ones. -/
theorem answers_replicate (hrate : 0 ≤ l.rate) (h : bs.SettledBy now) (key : String) (m : ℕ) :
    answers l key bs (List.replicate m (now, .check key)) =
      List.replicate (min m ⌊balance l (bs.byClient.get? key) now⌋₊) (now, true) ++
        List.replicate (m - ⌊balance l (bs.byClient.get? key) now⌋₊) (now, false) := by
  -- The clock stands still, so each admitted check lowers the balance by one and a refused one
  -- leaves it.
  induction m generalizing bs with
  | zero => simp [answers]
  | succ m ih =>
    have hsettled : (bs.check l now key).2.SettledBy now := settledBy_after h (.check key)
    have hrest := ih hsettled
    rw [balance_check_now hrate h] at hrest
    rw [List.replicate_succ, answers_cons_check, hrest, check_fst hrate h]
    by_cases hone : 1 ≤ balance l (bs.byClient.get? key) now
    · obtain ⟨k, hk⟩ : ∃ k, ⌊balance l (bs.byClient.get? key) now⌋₊ = k + 1 :=
        Nat.exists_eq_add_one.2 (Nat.floor_pos.2 hone)
      rw [if_pos hone, Nat.floor_sub_one, hk, Nat.add_sub_cancel, Nat.add_min_add_right,
        Nat.add_sub_add_right, List.replicate_succ, decide_eq_true hone]
      rfl
    · have hzero : ⌊balance l (bs.byClient.get? key) now⌋₊ = 0 := Nat.floor_eq_zero.2 (not_le.1 hone)
      rw [if_neg hone, hzero, Nat.min_zero, Nat.min_zero, Nat.sub_zero, Nat.sub_zero,
        decide_eq_false hone]
      rfl

/-- This many checks of a client in a row are admitted at an instant, and the next one is refused. -/
def AdmitsJust (l : Limits ℚ) (bs : Buckets ℚ) (key : String) (now n : ℕ) : Prop :=
  answers l key bs (List.replicate (n + 1) (now, .check key)) =
    List.replicate n (now, true) ++ [(now, false)]

theorem admitsJust_iff (hrate : 0 ≤ l.rate) (h : bs.SettledBy now) (key : String) (n : ℕ) :
    AdmitsJust l bs key now n ↔ n = ⌊balance l (bs.byClient.get? key) now⌋₊ := by
  rw [AdmitsJust, answers_replicate hrate h]
  constructor
  · intro heq
    have hcount := congrArg (List.count (now, true)) heq
    simp only [List.count_append, List.count_replicate_self, List.count_replicate, beq_iff_eq,
      Prod.mk.injEq, Bool.false_eq_true, and_false, ↓reduceIte, add_zero, ne_eq, not_false_eq_true,
        List.count_cons_of_ne,
      List.count_nil] at hcount
    omega
  · rintro rfl
    rw [Nat.min_eq_right (Nat.le_succ _), Nat.add_sub_cancel_left]
    rfl

theorem remaining_status (hmax : l.maxTokens < 2 ^ 32) (hrate : 0 ≤ l.rate) (h : bs.Sound l) (now : ℕ)
    (key : String) :
    (bs.status l now key).1.remaining = ⌊balance l (bs.byClient.get? key) now⌋₊ := by
  cases hb : bs.byClient.get? key with
  | none =>
    simp only [status, hb]
    exact (Nat.floor_natCast l.maxTokens).symm
  | some b =>
    simp only [status, hb]
    exact ((h key b hb).refill hrate now).floor_tokens hmax

theorem balance_status (hrate : 0 ≤ l.rate) (h : bs.SettledBy now) (key : String) :
    balance l ((bs.status l now key).2.byClient.get? key) now =
      balance l (bs.byClient.get? key) now := by
  rw [get?_status, if_pos rfl]
  exact balance_refill hrate (h key) le_rfl

/-- After any calls a client is told a number, at most that of a full bucket, that is just the
number of its checks that would be admitted in a row at that instant, before the report as well as
after it. Every bucket then holds between nothing and the cap, so that counting its whole tokens in
thirty-two bits loses none. -/
theorem status_foretells (l : Limits ℚ) (hmax : l.maxTokens < 2 ^ 32) (hrate : 0 ≤ l.rate)
    (calls : Schedule) (now : ℕ) (key : String)
    (hcalls : Schedule.Timely (calls ++ [(now, .status key)])) :
    let bs := empty.afterAll l calls
    let report := bs.status l now key
    report.1.remaining ≤ l.maxTokens ∧
    (∀ n, AdmitsJust l bs key now n ↔ n = report.1.remaining) ∧
    (∀ n, AdmitsJust l report.2 key now n ↔ n = report.1.remaining) ∧
    ∀ k b, bs.byClient.get? k = some b ∨ report.2.byClient.get? k = some b →
      0 ≤ b.tokens ∧ b.tokens ≤ l.maxTokens ∧ (Amount.floor b.tokens : ℤ) = ⌊b.tokens⌋ := by
  intro bs report
  obtain ⟨hearlier, -, hlast⟩ := List.pairwise_append.1 hcalls
  have hsettled : bs.SettledBy now :=
    settledBy_afterAll hearlier fun c hc ↦ hlast c hc _ List.mem_cons_self
  have hsettled' : report.2.SettledBy now := settledBy_after hsettled (.status key)
  have hsound : bs.Sound l := sound_afterAll hrate calls
  have hsound' : report.2.Sound l := hsound.after hrate now (.status key)
  have hremaining : report.1.remaining = ⌊balance l (bs.byClient.get? key) now⌋₊ :=
    remaining_status hmax hrate hsound now key
  refine ⟨?_, ?_, ?_, ?_⟩
  · rw [hremaining]
    exact Nat.floor_le_of_le (balance_le l _ now)
  · intro n
    rw [admitsJust_iff hrate hsettled, hremaining]
  · intro n
    rw [admitsJust_iff hrate hsettled', balance_status hrate hsettled, hremaining]
  · intro k b hb
    have hb' : b.Sound l := hb.elim (hsound k b) (hsound' k b)
    refine ⟨hb'.nonneg, hb'.le_cap, ?_⟩
    rw [hb'.floor_tokens hmax]
    exact Int.natCast_floor_eq_floor hb'.nonneg

theorem status_foretells_half :
    let l : Limits ℚ := ⟨2, 1 / 2, 1⟩
    let calls : Schedule :=
      [(0, .check "a"), (0, .check "a"), (0, .check "b"), (1000000000, .prune),
        (2000000000, .check "c")]
    l.maxTokens < 2 ^ 32 ∧ 0 ≤ l.rate ∧ Schedule.Timely (calls ++ [(3000000000, .status "a")]) ∧
      ((empty.afterAll l calls).status l 3000000000 "a").1.remaining = 1 ∧
      AdmitsJust l (empty.afterAll l calls) "a" 3000000000 1 ∧
      ((empty.afterAll l calls).status l 3000000000 "b").1.remaining = 2 ∧
      AdmitsJust l (empty.afterAll l calls) "b" 3000000000 2 := by
  intro l calls
  have hmax : l.maxTokens < 2 ^ 32 := by decide
  have hrate : 0 ≤ l.rate := by norm_num [l]
  have hdrained : Schedule.Timely (calls ++ [(3000000000, .status "a")]) := by decide
  have hdropped : Schedule.Timely (calls ++ [(3000000000, .status "b")]) := by decide
  have hone : ((empty.afterAll l calls).status l 3000000000 "a").1.remaining = 1 := by decide +kernel
  have htwo : ((empty.afterAll l calls).status l 3000000000 "b").1.remaining = 2 := by decide +kernel
  obtain ⟨-, hfirst, -⟩ := status_foretells l hmax hrate calls 3000000000 "a" hdrained
  obtain ⟨-, hsecond, -⟩ := status_foretells l hmax hrate calls 3000000000 "b" hdropped
  exact ⟨hmax, hrate, hdrained, hone, (hfirst 1).2 hone.symm, htwo, (hsecond 2).2 htwo.symm⟩

end Buckets

end FrontDoor.RateLimit
