import FrontDoor.Proofs.RateLimit.Reference

namespace FrontDoor.RateLimit

def admittedIn (t₁ t₂ : ℕ) (answers : List (ℕ × Bool)) : ℕ :=
  answers.countP fun a ↦ a.2 && t₁ ≤ a.1 && a.1 ≤ t₂

def admitted (answers : List (ℕ × Bool)) : ℕ := answers.countP (·.2)

def restored (rate : ℚ) (t₁ t₂ : ℕ) : ℚ := ((t₂ : ℚ) - t₁) / 1000000000 * rate

variable {rate : ℚ} {t₁ t₂ t₃ t : ℕ}

theorem restored_nonneg (hrate : 0 ≤ rate) (h : t₁ ≤ t₂) : 0 ≤ restored rate t₁ t₂ := by
  rw [restored, ← Nat.cast_sub h]
  exact Bucket.restored_nonneg hrate (t₂ - t₁)

theorem restored_add (rate : ℚ) (t₁ t₂ t₃ : ℕ) :
    restored rate t₁ t₂ + restored rate t₂ t₃ = restored rate t₁ t₃ := by
  simp only [restored]
  ring

theorem admittedIn_cons (a : ℕ × Bool) (answers : List (ℕ × Bool)) :
    admittedIn t₁ t₂ (a :: answers) =
      admittedIn t₁ t₂ answers + if a.2 ∧ t₁ ≤ a.1 ∧ a.1 ≤ t₂ then 1 else 0 := by
  simp only [admittedIn, List.countP_cons, Bool.and_eq_true, decide_eq_true_eq, and_assoc]

theorem admitted_cons (a : ℕ × Bool) (answers : List (ℕ × Bool)) :
    admitted (a :: answers) = admitted answers + if a.2 then 1 else 0 := List.countP_cons ..

theorem admittedIn_eq_zero {answers : List (ℕ × Bool)} (h : ∀ a ∈ answers, t₂ < a.1) :
    admittedIn t₁ t₂ answers = 0 := by
  refine List.countP_eq_zero.2 fun a ha ↦ ?_
  simp [h a ha]

namespace Reference

variable {maxTokens : ℕ} {r : Reference} {times : List ℕ}

structure Sound (maxTokens : ℕ) (r : Reference) : Prop where
  nonneg : 0 ≤ r.tokens
  le_max : r.tokens ≤ maxTokens

theorem sound_full (maxTokens : ℕ) : (full maxTokens).Sound maxTokens := ⟨Nat.cast_nonneg _, le_rfl⟩

theorem level_le (maxTokens : ℕ) (rate : ℚ) (r : Reference) (t : ℕ) :
    r.level maxTokens rate t ≤ maxTokens :=
  min_le_right _ _

theorem level_le_add (maxTokens : ℕ) (rate : ℚ) (r : Reference) (t : ℕ) :
    r.level maxTokens rate t ≤ r.tokens + restored rate r.since t := min_le_left _ _

theorem tokens_le_level (hrate : 0 ≤ rate) (hr : r.Sound maxTokens) (ht : r.since ≤ t) :
    r.tokens ≤ r.level maxTokens rate t :=
  le_min (le_add_of_nonneg_right (restored_nonneg hrate ht)) hr.le_max

theorem tokens_check (maxTokens : ℕ) (rate : ℚ) (r : Reference) (t : ℕ) :
    (r.check maxTokens rate t).tokens + (if r.admits maxTokens rate t then 1 else 0) =
      r.level maxTokens rate t := by
  rw [check]
  cases r.admits maxTokens rate t <;> simp

theorem Sound.check (hr : r.Sound maxTokens) (hrate : 0 ≤ rate) (ht : r.since ≤ t) :
    (r.check maxTokens rate t).Sound maxTokens := by
  have hlevel := hr.nonneg.trans (tokens_le_level hrate hr ht)
  have hle := level_le maxTokens rate r t
  rw [Reference.check]
  cases hadmits : r.admits maxTokens rate t with
  | false => exact ⟨hlevel, hle⟩
  | true =>
    have hone : 1 ≤ r.level maxTokens rate t := of_decide_eq_true hadmits
    exact ⟨sub_nonneg.2 hone, (sub_le_self _ zero_le_one).trans hle⟩

theorem times_answers (r : Reference) (times : List ℕ) :
    (r.answers maxTokens rate times).map (·.1) = times := by
  induction times generalizing r with
  | nil => rfl
  | cons t times ih => exact congrArg (t :: ·) (ih _)

theorem admittedIn_answers_eq_zero (hlate : t₂ < t) (htimes : (t :: times).Pairwise (· ≤ ·))
    (r : Reference) :
    admittedIn t₁ t₂ (r.answers maxTokens rate (t :: times)) = 0 := by
  refine admittedIn_eq_zero fun a ha ↦ ?_
  have hmem : a.1 ∈ t :: times := by
    rw [← times_answers r (t :: times)]
    exact List.mem_map_of_mem ha
  rcases List.mem_cons.1 hmem with heq | hmem
  · rw [heq]
    exact hlate
  · exact hlate.trans_le ((List.pairwise_cons.1 htimes).1 _ hmem)

theorem admittedIn_cons_le {rest : ℚ}
    (h : (admittedIn t₁ t₂ ((r.check maxTokens rate t).answers maxTokens rate times) : ℚ) ≤
      (r.check maxTokens rate t).tokens + rest) :
    (admittedIn t₁ t₂ (r.answers maxTokens rate (t :: times)) : ℚ) ≤
      r.level maxTokens rate t + rest := by
  have hone : ((if r.admits maxTokens rate t = true ∧ t₁ ≤ t ∧ t ≤ t₂ then 1 else 0 : ℕ) : ℚ) ≤
      if r.admits maxTokens rate t then 1 else 0 := by
    by_cases hadmits : r.admits maxTokens rate t = true
    · simp only [hadmits, true_and, if_true]
      split <;> simp
    · simp [hadmits]
  have htokens := tokens_check maxTokens rate r t
  rw [answers, admittedIn_cons, Nat.cast_add]
  linarith

theorem admittedIn_le_tokens (hrate : 0 ≤ rate) (hr : r.Sound maxTokens) (hsince : r.since ≤ t₂)
    (htimes : (r.since :: times).Pairwise (· ≤ ·)) :
    (admittedIn t₁ t₂ (r.answers maxTokens rate times) : ℚ) ≤ r.tokens + restored rate r.since t₂ := by
  induction times generalizing r with
  | nil => exact add_nonneg hr.nonneg (restored_nonneg hrate hsince)
  | cons t times ih =>
    obtain ⟨hhead, htail⟩ := List.pairwise_cons.1 htimes
    have ht : r.since ≤ t := hhead t List.mem_cons_self
    by_cases hin : t ≤ t₂
    · have hrest := ih (hr.check hrate ht) hin htail
      have hlevel := level_le_add maxTokens rate r t
      have hsplit := restored_add rate r.since t t₂
      have hcons := admittedIn_cons_le hrest
      simp only [check] at hcons
      linarith
    · rw [admittedIn_answers_eq_zero (not_le.1 hin) htail, Nat.cast_zero]
      exact add_nonneg hr.nonneg (restored_nonneg hrate hsince)

theorem admittedIn_le (hrate : 0 ≤ rate) (hwindow : t₁ ≤ t₂) (hr : r.Sound maxTokens)
    (htimes : (r.since :: times).Pairwise (· ≤ ·)) :
    (admittedIn t₁ t₂ (r.answers maxTokens rate times) : ℚ) ≤ maxTokens + restored rate t₁ t₂ := by
  have hbound : (0 : ℚ) ≤ maxTokens + restored rate t₁ t₂ :=
    add_nonneg (Nat.cast_nonneg _) (restored_nonneg hrate hwindow)
  induction times generalizing r with
  | nil => exact hbound
  | cons t times ih =>
    obtain ⟨hhead, htail⟩ := List.pairwise_cons.1 htimes
    have ht : r.since ≤ t := hhead t List.mem_cons_self
    have hcheck := hr.check hrate ht
    -- The first check of the window meets at most a full bucket; checks before it do not count.
    by_cases hbefore : t < t₁
    · have hskip : admittedIn t₁ t₂ (r.answers maxTokens rate (t :: times)) =
          admittedIn t₁ t₂ ((r.check maxTokens rate t).answers maxTokens rate times) := by
        rw [answers, admittedIn_cons, if_neg fun h ↦ not_le.2 hbefore h.2.1, Nat.add_zero]
      rw [hskip]
      exact ih hcheck htail
    · by_cases hin : t ≤ t₂
      · have hinside : (admittedIn t₁ t₂
            ((r.check maxTokens rate t).answers maxTokens rate times) : ℚ) ≤
            (r.check maxTokens rate t).tokens + restored rate t t₂ :=
              admittedIn_le_tokens hrate hcheck hin htail
        have hcons := admittedIn_cons_le hinside
        have hlevel := level_le maxTokens rate r t
        have hsplit := restored_add rate t₁ t t₂
        have hgap := restored_nonneg hrate (not_lt.1 hbefore)
        linarith
      · rw [admittedIn_answers_eq_zero (not_le.1 hin) htail, Nat.cast_zero]
        exact hbound

/-- A refusal comes after as many admissions as a full bucket has tokens. -/
theorem le_admitted_of_refused (hrate : 0 ≤ rate) (hr : r.Sound maxTokens)
    (htimes : (r.since :: times).Pairwise (· ≤ ·)) {n : ℕ} (hn : (maxTokens : ℚ) ≤ r.tokens + n)
    {earlier later : List (ℕ × Bool)}
    (h : r.answers maxTokens rate times = earlier ++ (t, false) :: later) :
    maxTokens ≤ admitted earlier + n := by
  induction times generalizing r n earlier with
  | nil => cases earlier <;> cases h
  | cons s times ih =>
    obtain ⟨hhead, htail⟩ := List.pairwise_cons.1 htimes
    have hs : r.since ≤ s := hhead s List.mem_cons_self
    have hlevel := tokens_le_level hrate hr hs
    rw [answers] at h
    cases earlier with
    | nil =>
      have hrefused : r.admits maxTokens rate s = false := congrArg Prod.snd (List.cons.inj h).1
      have hlow : r.level maxTokens rate s < 1 := not_le.1 (of_decide_eq_false hrefused)
      have hlt : (maxTokens : ℚ) < (n + 1 : ℕ) := by
        push_cast
        linarith
      exact (Nat.lt_succ_iff.1 (Nat.cast_lt.1 hlt)).trans (Nat.le_add_left n _)
    | cons a earlier =>
      rw [List.cons_append] at h
      obtain ⟨rfl, hrest⟩ := List.cons.inj h
      have htokens := tokens_check maxTokens rate r s
      rw [admitted_cons, Nat.add_assoc]
      refine ih (hr.check hrate hs) htail ?_ hrest
      push_cast
      linarith

end Reference

namespace Schedule

theorem pairwise_checksOf {calls : Schedule} (h : calls.Timely) (key : String) :
    (0 :: calls.checksOf key).Pairwise (· ≤ ·) :=
  List.pairwise_cons.2 ⟨fun t _ ↦ t.zero_le, List.pairwise_map.2 (h.filter _)⟩

end Schedule

namespace Buckets

/-- In every run and for every client, no window admits more checks than a full bucket and what the
rate restores in it; and no check is refused before as many were admitted as a full bucket has
tokens. -/
theorem admitted_bounds (l : Limits ℚ) (hrate : 0 ≤ l.rate) (calls : Schedule) (hcalls : calls.Timely)
    (key : String) :
    (∀ t₁ t₂ : ℕ, t₁ ≤ t₂ → (admittedIn t₁ t₂ (answers l key .empty calls) : ℚ) ≤
      l.maxTokens + l.rate * (((t₂ : ℚ) - t₁) / 1000000000)) ∧
    ∀ earlier t later, answers l key .empty calls = earlier ++ (t, false) :: later →
      l.maxTokens ≤ admitted earlier := by
  have heq := (tracks_empty hrate key).answers_eq hrate hcalls (fun c _ ↦ c.1.zero_le)
      (settledBy_empty 0)
  have htimes := Schedule.pairwise_checksOf hcalls key
  have hfull := Reference.sound_full l.maxTokens
  rw [heq]
  constructor
  · intro t₁ t₂ hwindow
    rw [mul_comm l.rate]
    exact Reference.admittedIn_le hrate hwindow hfull htimes
  · intro earlier t later h
    refine Reference.le_admitted_of_refused hrate hfull htimes (n := 0) ?_ h
    simp [Reference.full]

theorem admitted_bounds_burst :
    let l : Limits ℚ := ⟨2, 1 / 2, 1⟩
    let calls : Schedule :=
      [(0, .check "a"), (0, .check "a"), (0, .check "a"), (1000000000, .check "b"),
      (2000000000, .check "a"), (2000000000, .check "a")]
    0 ≤ l.rate ∧ calls.Timely ∧
      (admittedIn 0 2000000000 (answers l "a" .empty calls) : ℚ) ≤
        l.maxTokens + l.rate * (((2000000000 : ℕ) - (0 : ℕ)) / 1000000000) ∧
      answers l "a" .empty calls =
        [(0, true), (0, true)] ++ (0, false) :: [(2000000000, true), (2000000000, false)] ∧
      l.maxTokens ≤ admitted [(0, true), (0, true)] := by
  intro l calls
  have hrate : 0 ≤ l.rate := by norm_num [l]
  have hcalls : calls.Timely := by decide
  have hanswers : answers l "a" .empty calls =
      [(0, true), (0, true)] ++ (0, false) :: [(2000000000, true), (2000000000, false)] := by
        decide +kernel
  obtain ⟨hwindow, hrefused⟩ := admitted_bounds l hrate calls hcalls "a"
  exact ⟨hrate, hcalls, hwindow 0 2000000000 (by decide), hanswers, hrefused _ _ _ hanswers⟩

end Buckets

end FrontDoor.RateLimit
