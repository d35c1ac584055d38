import FrontDoor.Proofs.RateLimit.Run

namespace FrontDoor.RateLimit

/-- A bucket that knows of nothing but the checks of one client. -/
structure Reference where
  tokens : ℚ
  since : ℕ

namespace Reference

def full (maxTokens : ℕ) : Reference := ⟨maxTokens, 0⟩

variable (maxTokens : ℕ) (rate : ℚ)

/-- The tokens that are there at a clock reading: those that were left and those restored since, up
to the cap. -/
def level (r : Reference) (t : ℕ) : ℚ :=
  min (r.tokens + ((t : ℚ) - r.since) / 1000000000 * rate) maxTokens

def admits (r : Reference) (t : ℕ) : Bool := 1 ≤ r.level maxTokens rate t

def check (r : Reference) (t : ℕ) : Reference :=
  ⟨if r.admits maxTokens rate t then r.level maxTokens rate t - 1 else r.level maxTokens rate t, t⟩

/-- Checks one after another, each with its clock reading and its answer. -/
def answers : Reference → List ℕ → List (ℕ × Bool)
  | _, [] => []
  | r, t :: ts => (t, r.admits maxTokens rate t) :: answers (r.check maxTokens rate t) ts

end Reference

namespace Schedule

variable {calls : Schedule} {call : Call} {key : String} {t : ℕ}

theorem checksOf_cons_check (calls : Schedule) (key : String) (t : ℕ) :
    checksOf ((t, .check key) :: calls) key = t :: calls.checksOf key := by
  simp [checksOf]

theorem checksOf_cons_of_ne (h : call ≠ .check key) (calls : Schedule) (t : ℕ) :
    checksOf ((t, call) :: calls) key = calls.checksOf key := by
  simp [checksOf, h]

end Schedule

namespace Buckets

variable {l : Limits ℚ} {bs : Buckets ℚ} {r : Reference} {key : String} {now t : ℕ}

theorem answers_cons_check (bs : Buckets ℚ) (key : String) (t : ℕ) (calls : Schedule) :
    answers l key bs ((t, .check key) :: calls) =
      (t, (bs.check l t key).1) :: answers l key (bs.check l t key).2 calls := by
  simp [answers, answer?, after]

theorem answers_cons_of_ne {call : Call} (h : call ≠ .check key) (bs : Buckets ℚ) (t : ℕ)
    (calls : Schedule) :
    answers l key bs ((t, call) :: calls) = answers l key (bs.after l t call) calls := by
  have hnone : bs.answer? l key t call = none := by
    cases call with
    | check k => exact if_neg fun heq ↦ h (congrArg Call.check heq)
    | status k => rfl
    | prune => rfl
  rw [answers, hnone]
  rfl

/-- From now on a client can draw on exactly the tokens of its reference. -/
structure Tracks (l : Limits ℚ) (bs : Buckets ℚ) (key : String) (now : ℕ) (r : Reference) : Prop where
  since_le : r.since ≤ now
  level : ∀ t, now ≤ t → balance l (bs.byClient.get? key) t = r.level l.maxTokens l.rate t

theorem tracks_empty (hrate : 0 ≤ l.rate) (key : String) :
    Tracks l .empty key 0 (.full l.maxTokens) where
  since_le := le_rfl
  level t _ := by
    have hfull : (0 : ℚ) ≤ ((t : ℚ) - (0 : ℕ)) / 1000000000 * l.rate := by
      simpa using Bucket.restored_nonneg hrate t
    exact (min_eq_right (le_add_of_nonneg_right hfull)).symm

theorem Tracks.check_fst (h : Tracks l bs key now r) (hrate : 0 ≤ l.rate) (hbs : bs.SettledBy t)
    (ht : now ≤ t) :
    (bs.check l t key).1 = r.admits l.maxTokens l.rate t := by
  rw [Buckets.check_fst hrate hbs, h.level t ht]
  rfl

theorem Tracks.check (h : Tracks l bs key now r) (hrate : 0 ≤ l.rate) (hbs : bs.SettledBy t)
    (ht : now ≤ t) :
    Tracks l (bs.check l t key).2 key t (r.check l.maxTokens l.rate t) where
  since_le := le_rfl
  level t' ht' := by
    have hspan : ((t' - t : ℕ) : ℚ) = (t' : ℚ) - t := Nat.cast_sub ht'
    rw [balance_check_self hrate hbs, h.level t ht, hspan, Reference.level, Reference.check,
      Reference.admits]
    simp only [decide_eq_true_eq]
    rfl

theorem Tracks.after (h : Tracks l bs key now r) (hrate : 0 ≤ l.rate) (hbs : bs.SettledBy t)
    (ht : now ≤ t) {call : Call} (hcall : call ≠ .check key) :
    Tracks l (bs.after l t call) key t r where
  since_le := h.since_le.trans ht
  level t' ht' := (balance_after hrate hbs hcall ht').trans (h.level t' (ht.trans ht'))

theorem Tracks.answers_eq (hrate : 0 ≤ l.rate) {calls : Schedule} (hcalls : calls.Timely)
    (hnow : ∀ c ∈ calls, now ≤ c.1) (hbs : bs.SettledBy now) (h : Tracks l bs key now r) :
    answers l key bs calls = r.answers l.maxTokens l.rate (calls.checksOf key) := by
  induction calls generalizing bs r now with
  | nil => rfl
  | cons c calls ih =>
    obtain ⟨t, call⟩ := c
    obtain ⟨hhead, htail⟩ := List.pairwise_cons.1 hcalls
    have ht : now ≤ t := hnow _ List.mem_cons_self
    have hbs' : bs.SettledBy t := hbs.mono ht
    by_cases hcall : call = .check key
    · subst hcall
      rw [answers_cons_check, Schedule.checksOf_cons_check, Reference.answers,
        h.check_fst hrate hbs' ht]
      exact congrArg _ (ih htail hhead (settledBy_after hbs' (.check key)) (h.check hrate hbs' ht))
    · rw [answers_cons_of_ne hcall, Schedule.checksOf_cons_of_ne hcall]
      exact ih htail hhead (settledBy_after hbs' call) (h.after hrate hbs' ht hcall)

/-- In every run of a limiter the checks of a client are answered as those of one bucket that starts
full and is fed only these checks, at their times. Checks of other clients, reports, sweeps and the
number of buckets between them therefore do not matter. -/
theorem answers_eq_reference (l : Limits ℚ) (hrate : 0 ≤ l.rate) (calls : Schedule)
    (hcalls : calls.Timely) (key : String) :
    answers l key .empty calls =
      (Reference.full l.maxTokens).answers l.maxTokens l.rate (calls.checksOf key) :=
  (tracks_empty hrate key).answers_eq hrate hcalls (fun c _ ↦ Nat.zero_le c.1) (settledBy_empty 0)

theorem answers_eq_reference_crowd :
    let l : Limits ℚ := ⟨1, 1 / 2, 1⟩
    let calls : Schedule :=
      [(0, .check "a"), (0, .check "b"), (1000000000, .status "a"), (1000000000, .check "a"),
      (2000000000, .check "c"), (2000000000, .prune), (3000000000, .check "a")]
    0 ≤ l.rate ∧ calls.Timely ∧
    Buckets.answers l "a" .empty calls = [(0, true), (1000000000, false), (3000000000, true)] := by
  intro l calls
  have hrate : 0 ≤ l.rate := by norm_num [l]
  have hcalls : calls.Timely := by decide
  refine ⟨hrate, hcalls, (answers_eq_reference l hrate calls hcalls "a").trans ?_⟩
  decide +kernel

end Buckets

end FrontDoor.RateLimit
