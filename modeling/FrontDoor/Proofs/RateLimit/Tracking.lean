import FrontDoor.Proofs.RateLimit.Guarantee
import Mathlib.Data.List.Induction

namespace FrontDoor.RateLimit

namespace Buckets

variable {α : Type} [Amount α]

def sweeps (bs : Buckets α) (l : Limits α) : Call → Bool
  | .check key => !bs.byClient.contains key && l.pruneEvery ≤ bs.createdSincePrune
  | .status _ => false
  | .prune => true

end Buckets

structure Sweep (α : Type) where
  earlier : Schedule
  time : ℕ
  survivors : Dict (Bucket α)

structure Course (α : Type) where
  calls : Schedule := []
  buckets : Buckets α := .empty
  lastSweep : Option (Sweep α) := none

namespace Course

variable {α : Type} [Amount α]

def step (l : Limits α) (c : Course α) (call : ℕ × Call) : Course α where
  calls := c.calls ++ [call]
  buckets := c.buckets.after l call.1 call.2
  lastSweep :=
    if c.buckets.sweeps l call.2 then some ⟨c.calls, call.1, sweep l call.1 c.buckets.byClient⟩
      else c.lastSweep

def run (l : Limits α) (calls : Schedule) : Course α := calls.foldl (step l) {}

def survived (c : Course α) : ℕ := (c.lastSweep.map fun s ↦ s.survivors.size).getD 0

theorem run_append (l : Limits α) (calls : Schedule) (call : ℕ × Call) :
    run l (calls ++ [call]) = (run l calls).step l call := List.foldl_concat ..

theorem calls_run (l : Limits α) (calls : Schedule) : (run l calls).calls = calls := by
  induction calls using List.reverseRecOn with
  | nil => rfl
  | append_singleton calls call ih => rw [run_append, step, ih]

end Course

namespace Buckets

variable {l : Limits ℚ} {bs : Buckets ℚ} {call : Call} {key : String} {now t : ℕ}

theorem contains_sweep (h : bs.byClient.contains key = false) (now : ℕ) :
    (sweep l now bs.byClient).contains key = false := by
  have hnone : bs.byClient.get? key = none := by simpa [Dict.contains] using h
  rw [Dict.contains, get?_sweep, hnone]
  rfl

theorem keys_status (bs : Buckets ℚ) (l : Limits ℚ) (now : ℕ) (key : String) :
    (bs.status l now key).2.byClient.keys = bs.byClient.keys := by
  cases hb : bs.byClient.get? key with
  | none => simp only [status, hb]
  | some b =>
    simp only [status, hb]
    apply Dict.keys_insert_of_contains
    rw [Dict.contains, hb]
    rfl

theorem tracked_of_sweeps (h : bs.sweeps l call = true) :
    (bs.after l now call).tracked =
      (sweep l now bs.byClient).size + (bs.after l now call).createdSincePrune ∧
      (bs.after l now call).createdSincePrune ≤ 1 := by
  cases call with
  | status key => cases h
  | prune => exact ⟨rfl, Nat.zero_le 1⟩
  | check key =>
    obtain ⟨hnew, hdue⟩ : bs.byClient.contains key = false ∧ l.pruneEvery ≤ bs.createdSincePrune := by
      simpa [sweeps] using h
    have hprepare : bs.prepare l now key = ⟨sweep l now bs.byClient, 1⟩ := by
      simp [prepare, hnew, hdue]
    rw [after, check_eq, hprepare]
    exact ⟨Dict.size_insert_of_not_contains (contains_sweep hnew now) _, le_rfl⟩

theorem tracked_of_not_sweeps (h : bs.sweeps l call = false)
    (hmade : bs.createdSincePrune ≤ l.pruneEvery) (now : ℕ) :
    (bs.after l now call).tracked + bs.createdSincePrune =
      bs.tracked + (bs.after l now call).createdSincePrune ∧
      (bs.after l now call).createdSincePrune ≤ l.pruneEvery := by
  cases call with
  | prune => cases h
  | status key =>
    have htracked : (bs.status l now key).2.tracked = bs.tracked :=
      Dict.size_eq_of_keys_eq (keys_status bs l now key)
    have hsame : (bs.status l now key).2.createdSincePrune = bs.createdSincePrune := by
      rw [status]
      split <;> rfl
    rw [after, htracked, hsame]
    exact ⟨rfl, hmade⟩
  | check key =>
    rw [after, check_eq]
    cases hold : bs.byClient.contains key with
    | true =>
      have hprepare : bs.prepare l now key = bs := by rw [prepare, if_pos hold]
      rw [hprepare]
      refine ⟨congrArg (· + bs.createdSincePrune) (Dict.size_eq_of_keys_eq ?_), hmade⟩
      exact Dict.keys_insert_of_contains hold _
    | false =>
      have hroom : bs.createdSincePrune < l.pruneEvery := by simpa [sweeps, hold] using h
      have hprepare : bs.prepare l now key =
          { bs with createdSincePrune := bs.createdSincePrune + 1 } := by
        simp [prepare, hold, hroom]
      rw [hprepare]
      have hsize := Dict.size_insert_of_not_contains hold (bs.drawn l now key).take.2
      constructor
      · simp only [tracked, hsize]
        omega
      · exact hroom

end Buckets

variable {l : Limits ℚ} {calls : Schedule} {call : Call} {key : String} {now t : ℕ}

theorem Course.buckets_run (l : Limits ℚ) (calls : Schedule) :
    (run l calls).buckets = Buckets.empty.afterAll l calls := by
  induction calls using List.reverseRecOn with
  | nil => rfl
  | append_singleton calls call ih =>
    rw [run_append, Buckets.afterAll_append, ← ih]
    rfl

theorem answers_concat_check (l : Limits ℚ) (key : String) (calls : Schedule) (t : ℕ) :
    Buckets.answers l key .empty (calls ++ [(t, .check key)]) =
      Buckets.answers l key .empty calls ++ [(t, ((Course.run l calls).buckets.check l t key).1)] := by
  rw [Buckets.answers_append, Buckets.answers_cons_check, Course.buckets_run]
  rfl

theorem answers_concat_of_ne (h : call ≠ .check key) (l : Limits ℚ) (calls : Schedule) (t : ℕ) :
    Buckets.answers l key .empty (calls ++ [(t, call)]) = Buckets.answers l key .empty calls := by
  rw [Buckets.answers_append, Buckets.answers_cons_of_ne h]
  exact List.append_nil _

/-- What is missing in a bucket was taken by admitted checks, and at least what the time since then
restores is there. -/
def Lent (l : Limits ℚ) (answers : List (ℕ × Bool)) (found : Option (Bucket ℚ)) (now : ℕ) : Prop :=
  ∀ t, now ≤ t → balance l found t < l.cap →
    ∃ s, (s, true) ∈ answers ∧ s ≤ now ∧ restored l.rate s t ≤ balance l found t

theorem Lent.mono {answers : List (ℕ × Bool)} {found : Option (Bucket ℚ)}
    (h : Lent l answers found now) (ht : now ≤ t) : Lent l answers found t := by
  intro u hu hlow
  obtain ⟨s, hs, hle, hrestored⟩ := h u (ht.trans hu) hlow
  exact ⟨s, hs, hle.trans ht, hrestored⟩

/-- A check leaves its own bucket so: if it is admitted it is itself the one that took from the
bucket. -/
theorem Lent.check {bs : Buckets ℚ} {answers : List (ℕ × Bool)} (hrate : 0 ≤ l.rate)
    (hbs : bs.SettledBy t) (h : Lent l answers (bs.byClient.get? key) now) (ht : now ≤ t) :
    Lent l (answers ++ [(t, (bs.check l t key).1)]) ((bs.check l t key).2.byClient.get? key) t := by
  intro u hu hlow
  have hspan : ((u - t : ℕ) : ℚ) / 1000000000 * l.rate = restored l.rate t u := by
    rw [restored, Nat.cast_sub hu]
  rw [Buckets.balance_check_self hrate hbs, hspan] at hlow ⊢
  have hleft := min_eq_left_of_lt ((min_lt_iff.1 hlow).resolve_right (lt_irrefl _))
  rw [hleft]
  by_cases hadmit : 1 ≤ balance l (bs.byClient.get? key) t
  · have hok : (bs.check l t key).1 = true := by
      rw [Buckets.check_fst hrate hbs]
      exact decide_eq_true hadmit
    refine ⟨t, by simp [hok], le_rfl, ?_⟩
    rw [if_pos hadmit]
    linarith
  · rw [hleft, if_neg hadmit] at hlow
    rw [if_neg hadmit]
    have hmore := restored_nonneg hrate hu
    obtain ⟨s, hs, hle, hrestored⟩ := h t ht (by linarith)
    refine ⟨s, List.mem_append_left _ hs, hle.trans ht, ?_⟩
    have hsplit := restored_add l.rate s t u
    linarith

structure Accounted (l : Limits ℚ) (c : Course ℚ) (now : ℕ) : Prop where
  settled : c.buckets.SettledBy now
  tracked : c.buckets.tracked = c.survived + c.buckets.createdSincePrune
  made_le : c.buckets.createdSincePrune ≤ l.pruneEvery
  lent : ∀ key, Lent l (Buckets.answers l key .empty c.calls) (c.buckets.byClient.get? key) now
  survivors : ∀ s, c.lastSweep = some s → ∀ key, s.survivors.contains key → ∃ t,
    (t, true) ∈ Buckets.answers l key .empty s.earlier ∧ t ≤ s.time ∧ restored l.rate t s.time < l.cap

theorem accounted_nil (l : Limits ℚ) : Accounted l (Course.run l []) 0 where
  settled := Buckets.settledBy_empty 0
  tracked := rfl
  made_le := Nat.zero_le _
  lent _ _ _ hlow := absurd hlow (lt_irrefl _)
  survivors _ hs := by cases hs

/-- A bucket that survives a sweep was not full, so that something was taken from it. -/
theorem exists_admitted_of_survivor {d : Dict (Bucket ℚ)} {answers : List (ℕ × Bool)}
    (hlent : Lent l answers (d.get? key) now) (h : (sweep l now d).contains key) :
    ∃ t, (t, true) ∈ answers ∧ t ≤ now ∧ restored l.rate t now < l.cap := by
  obtain ⟨b, hb⟩ := Option.isSome_iff_exists.1 h
  rw [get?_sweep] at hb
  obtain ⟨hrefilled, hlow⟩ := Option.filter_eq_some_iff.1 hb
  obtain ⟨b₀, hb₀, rfl⟩ := Option.map_eq_some_iff.1 hrefilled
  have hbalance : balance l (d.get? key) now < l.cap := by
    rw [hb₀]
    exact of_decide_eq_true hlow
  obtain ⟨s, hs, hle, hrestored⟩ := hlent now le_rfl hbalance
  exact ⟨s, hs, hle, hrestored.trans_lt hbalance⟩

theorem Accounted.step (hrate : 0 ≤ l.rate) (hprune : 1 ≤ l.pruneEvery)
    (h : Accounted l (Course.run l calls) now) (ht : now ≤ t) (call : Call) :
    Accounted l (Course.run l (calls ++ [(t, call)])) t := by
  have hsettled := h.settled.mono ht
  have hcalls := Course.calls_run l calls
  have hlent (key : String) : Lent l (Buckets.answers l key .empty calls)
      ((Course.run l calls).buckets.byClient.get? key) t := by
    have hkey := (h.lent key).mono ht
    rwa [hcalls] at hkey
  rw [Course.run_append, Course.step, hcalls]
  refine ⟨Buckets.settledBy_after hsettled call, ?_, ?_, fun key ↦ ?_, ?_⟩
  · cases hsweeps : (Course.run l calls).buckets.sweeps l call with
    | true => simp [Course.survived, (Buckets.tracked_of_sweeps hsweeps).1]
    | false =>
      obtain ⟨htracked, -⟩ := Buckets.tracked_of_not_sweeps hsweeps h.made_le t
      have hbefore := h.tracked
      simp only [Course.survived, Bool.false_eq_true, if_false] at *
      omega
  · cases hsweeps : (Course.run l calls).buckets.sweeps l call with
    | true => exact (Buckets.tracked_of_sweeps hsweeps).2.trans hprune
    | false => exact (Buckets.tracked_of_not_sweeps hsweeps h.made_le t).2
  · by_cases hcall : call = .check key
    · subst hcall
      rw [answers_concat_check]
      exact (hlent key).check hrate hsettled le_rfl
    · rw [answers_concat_of_ne hcall]
      intro u hu hlow
      rw [Buckets.balance_after hrate hsettled hcall hu] at hlow ⊢
      exact hlent key u hu hlow
  · intro s hs key hkey
    cases hsweeps : (Course.run l calls).buckets.sweeps l call with
    | true =>
      rw [hsweeps] at hs
      cases hs
      exact exists_admitted_of_survivor (hlent key) hkey
    | false =>
      rw [hsweeps] at hs
      exact h.survivors s hs key hkey

theorem exists_accounted (hrate : 0 ≤ l.rate) (hprune : 1 ≤ l.pruneEvery) (hcalls : calls.Timely) :
    ∃ now, Accounted l (Course.run l calls) now ∧ ∀ t, (∀ c ∈ calls, c.1 ≤ t) → now ≤ t := by
  induction calls using List.reverseRecOn with
  | nil => exact ⟨0, accounted_nil l, fun t _ ↦ t.zero_le⟩
  | append_singleton calls c ih =>
    obtain ⟨hearlier, -, hlast⟩ := List.pairwise_append.1 hcalls
    obtain ⟨now, hbefore, hnow⟩ := ih hearlier
    have ht : now ≤ c.1 := hnow c.1 fun a ha ↦ hlast a ha c List.mem_cons_self
    exact ⟨c.1, hbefore.step hrate hprune ht c.2,
      fun t h ↦ h c (List.mem_append_right _ List.mem_cons_self)⟩

/-- After any calls a limiter keeps the buckets that survived the last sweep and those that were
made since, and no more of the latter than it makes between two sweeps. If the rate is positive,
each client whose bucket survived was admitted so short a time before that its bucket could not be
full again. Reports make no bucket. -/
theorem tracked_bounds (l : Limits ℚ) (hrate : 0 ≤ l.rate) (pruneEvery : ℕ) (calls : Schedule)
    (hcalls : calls.Timely) :
    let limits := l.withPruneEvery pruneEvery
    let c := Course.run limits calls
    c.buckets.tracked = c.survived + c.buckets.createdSincePrune ∧
    c.buckets.createdSincePrune ≤ max pruneEvery 1 ∧
    (0 < l.rate → ∀ s, c.lastSweep = some s → ∀ key, s.survivors.contains key → ∃ t,
      (t, true) ∈ Buckets.answers limits key .empty s.earlier ∧ t ≤ s.time ∧
        ((s.time : ℚ) - t) / 1000000000 < l.maxTokens / l.rate) ∧
    ∀ now key, (c.buckets.status limits now key).2.byClient.keys = c.buckets.byClient.keys := by
  intro limits c
  obtain ⟨_, h, -⟩ := exists_accounted (l := limits) hrate (le_max_right _ _) hcalls
  refine ⟨h.tracked, h.made_le, ?_, fun now key ↦ Buckets.keys_status _ _ now key⟩
  intro hpositive s hs key hkey
  obtain ⟨t, ht, hle, hrestored⟩ := h.survivors s hs key hkey
  exact ⟨t, ht, hle, (lt_div_iff₀ hpositive).2 hrestored⟩

theorem tracked_bounds_crowd :
    let l : Limits ℚ := ⟨2, 1 / 2, 1024⟩
    let calls : Schedule :=
      [(0, .check "a"), (1000000000, .check "b"), (2000000000, .status "z"), (2000000000, .check "c")]
    let c := Course.run (l.withPruneEvery 0) calls
    0 ≤ l.rate ∧ calls.Timely ∧ c.survived = 1 ∧ c.buckets.createdSincePrune = 1 ∧
      c.buckets.tracked = 2 ∧
      ∃ s, c.lastSweep = some s ∧ s.time = 2000000000 ∧ s.survivors.contains "b" ∧ ∃ t,
        (t, true) ∈ Buckets.answers (l.withPruneEvery 0) "b" .empty s.earlier ∧
        ((s.time : ℚ) - t) / 1000000000 < l.maxTokens / l.rate := by
  intro l calls c
  have hrate : 0 ≤ l.rate := by norm_num [l]
  have hcalls : calls.Timely := by decide
  obtain ⟨htracked, -, hsurvivors, -⟩ := tracked_bounds l hrate 0 calls hcalls
  have hleft : c.survived = 1 := by decide +kernel
  have hmade : c.buckets.createdSincePrune = 1 := by decide +kernel
  have hswept : (c.lastSweep.map fun s ↦ (s.time, s.survivors.contains "b")) =
      some (2000000000, true) := by decide +kernel
  obtain ⟨s, hs, hpair⟩ := Option.map_eq_some_iff.1 hswept
  obtain ⟨htime, hb⟩ := Prod.mk.inj hpair
  obtain ⟨t, ht, -, hsince⟩ := hsurvivors (by norm_num [l]) s hs "b" hb
  refine ⟨hrate, hcalls, hleft, hmade, ?_, s, hs, htime, hb, t, ht, hsince⟩
  rw [htracked, hleft, hmade]

end FrontDoor.RateLimit
