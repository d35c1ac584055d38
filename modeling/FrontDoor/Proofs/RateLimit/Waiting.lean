import FrontDoor.Proofs.RateLimit.Guarantee
import FrontDoor.RateLimit.Plugin

namespace FrontDoor.RateLimit

open Http

variable {rate : ℚ} {t t' due : ℕ} {earlier later : List (ℕ × Bool)}

theorem restored_le (hrate : 0 ≤ rate) (since : ℕ) (h : t ≤ t') :
    restored rate since t ≤ restored rate since t' := by
  have hsplit := restored_add rate since t t'
  have hmore := restored_nonneg hrate h
  linarith

theorem restored_zero (t t' : ℕ) : restored 0 t t' = 0 := mul_zero _

namespace Reference

variable {maxTokens : ℕ} {r : Reference} {times : List ℕ}

theorem level_of_refused (hmax : 1 ≤ maxTokens) (h : r.admits maxTokens rate t = false) :
    r.level maxTokens rate t = r.tokens + restored rate r.since t ∧ r.level maxTokens rate t < 1 := by
  have hlow : r.level maxTokens rate t < 1 := not_le.1 (of_decide_eq_false h)
  have hone : (1 : ℚ) ≤ maxTokens := by exact_mod_cast hmax
  refine ⟨?_, hlow⟩
  rw [level] at hlow ⊢
  rcases min_lt_iff.1 hlow with hless | hcap
  · exact min_eq_left (hless.trans_le hone).le
  · exact absurd hone (not_le.2 hcap)

theorem check_of_refused (h : r.admits maxTokens rate t = false) :
    r.check maxTokens rate t = ⟨r.level maxTokens rate t, t⟩ := by
  rw [check, h]
  rfl

theorem exists_after_refusal (hmax : 1 ≤ maxTokens) (hrate : 0 ≤ rate) (hr : r.Sound maxTokens)
    (htimes : (r.since :: times).Pairwise (· ≤ ·))
    (h : r.answers maxTokens rate times = earlier ++ (t, false) :: later) :
    ∃ left behind, 0 ≤ left ∧ left < 1 ∧
      later = Reference.answers maxTokens rate ⟨left, t⟩ behind := by
  induction times generalizing r earlier with
  | nil => cases earlier <;> cases h
  | cons s times ih =>
    obtain ⟨hhead, htail⟩ := List.pairwise_cons.1 htimes
    have hs : r.since ≤ s := hhead s List.mem_cons_self
    rw [answers] at h
    cases earlier with
    | nil =>
      obtain ⟨hfirst, hlater⟩ := List.cons.inj h
      obtain ⟨rfl, hrefused⟩ := Prod.mk.inj hfirst
      have hlevel := (level_of_refused hmax hrefused).2
      rw [check_of_refused hrefused] at hlater
      exact ⟨_, times, hr.nonneg.trans (tokens_le_level hrate hr hs), hlevel, hlater.symm⟩
    | cons a earlier => exact ih (hr.check hrate hs) htail (List.cons.inj h).2

theorem admitted_of_due (hmax : 1 ≤ maxTokens) (hrate : 0 ≤ rate) {ok : Bool}
    (hdue : 1 ≤ r.tokens + restored rate r.since due) (hlate : due ≤ t)
    (hearlier : ∀ a ∈ earlier, a.2 = false)
    (h : r.answers maxTokens rate times = earlier ++ (t, ok) :: later) : ok = true := by
  induction earlier generalizing r times with
  | nil =>
    cases times with
    | nil => cases h
    | cons s times =>
      obtain ⟨rfl, rfl⟩ := Prod.mk.inj (List.cons.inj h).1
      have hrestored := restored_le hrate r.since hlate
      have hone : (1 : ℚ) ≤ maxTokens := by exact_mod_cast hmax
      have hlevel : 1 ≤ r.level maxTokens rate s := by
        apply le_min _ hone
        exact hdue.trans (add_le_add_right hrestored r.tokens)
      exact decide_eq_true hlevel
  | cons a earlier ih =>
    cases times with
    | nil => cases h
    | cons s times =>
      rw [answers, List.cons_append] at h
      obtain ⟨rfl, hrest⟩ := List.cons.inj h
      have hrefused : r.admits maxTokens rate s = false := hearlier _ List.mem_cons_self
      have hlevel := (level_of_refused hmax hrefused).1
      have hsplit := restored_add rate r.since s due
      rw [check_of_refused hrefused] at hrest
      apply ih _ (fun a ha ↦ hearlier a (List.mem_cons_of_mem _ ha)) hrest
      dsimp only
      linarith

theorem refused_of_rate_zero (hr : r.tokens < 1) (times : List ℕ) :
    ∀ a ∈ r.answers maxTokens 0 times, a.2 = false := by
  induction times generalizing r with
  | nil => simp [answers]
  | cons s times ih =>
    have hlevel : r.level maxTokens 0 s < 1 := by
      have hle := level_le_add maxTokens 0 r s
      rw [restored_zero, add_zero] at hle
      exact hle.trans_lt hr
    have hrefused : r.admits maxTokens 0 s = false := decide_eq_false (not_le.2 hlevel)
    intro a ha
    rw [answers, check_of_refused hrefused] at ha
    rcases List.mem_cons.1 ha with rfl | ha
    · exact hrefused
    · have hleft : (Reference.mk (r.level maxTokens 0 s) s).tokens < 1 := hlevel
      exact ih hleft a ha

end Reference

namespace Limits

/-- Unless the count is cut off at its greatest value, a whole token is restored in the seconds that
are told. -/
theorem one_le_restored {l : Limits ℚ} (hrate : 0 < l.rate) {seconds : ℕ}
    (h : l.retryAfterSeconds? = some seconds) (hbits : seconds < 0xffffffffffffffff) (t : ℕ) :
    1 ≤ restored l.rate t (t + seconds * 1000000000) := by
  have hsome : l.retryAfterSeconds? = some (min (max ⌈1 / l.rate⌉.toNat 1) 0xffffffffffffffff) := by
    have hlt : Amount.lt (Amount.ofNat 0) l.rate = true := by
      simpa [Amount.lt, Amount.ofNat] using hrate
    rw [retryAfterSeconds?, if_pos hlt]
    rfl
  have hseconds : ⌈1 / l.rate⌉.toNat ≤ seconds := by
    have heq := Option.some.inj (h.symm.trans hsome)
    omega
  have hceil : 1 / l.rate ≤ (seconds : ℚ) := by
    have hnat : ⌈1 / l.rate⌉ ≤ (seconds : ℤ) := Int.toNat_le.1 hseconds
    exact Int.ceil_le.1 hnat
  have hspan : restored l.rate t (t + seconds * 1000000000) = seconds * l.rate := by
    rw [restored]
    push_cast
    ring
  rw [hspan]
  exact (div_le_iff₀ hrate).1 hceil

theorem retryAfterSeconds?_of_rate_zero {l : Limits ℚ} (hrate : l.rate = 0) :
    l.retryAfterSeconds? = none := by
  have hlt : Amount.lt (Amount.ofNat 0) l.rate = false := by simp [Amount.lt, Amount.ofNat, hrate]
  rw [retryAfterSeconds?, hlt]
  rfl

end Limits

theorem header?_rejection (limits : Limits Float) :
    (rejection limits).header? "retry-after" = limits.retryAfterSeconds?.map toString := by
  rw [rejection]
  cases limits.retryAfterSeconds? with
  | none => rfl
  | some seconds => rfl

namespace Buckets

/-- Let a check of a client be refused in a run. If the rate is positive, the client is told some
seconds (in the header of the refusal), and its next check that comes that much later, with no
admitted one in between, is admitted; if the rate is zero, it is told nothing, and none of its later
checks is admitted. -/
theorem wait_suffices (l : Limits ℚ) (hmax : 1 ≤ l.maxTokens) (hrate : 0 ≤ l.rate) (calls : Schedule)
    (hcalls : calls.Timely) (key : String)
    (hrefused : answers l key .empty calls = earlier ++ (t, false) :: later) :
    (0 < l.rate → ∃ seconds, l.retryAfterSeconds? = some seconds ∧ (seconds < 0xffffffffffffffff →
      ∀ refused t' ok rest, later = refused ++ (t', ok) :: rest → (∀ a ∈ refused, a.2 = false) →
        t + seconds * 1000000000 ≤ t' → ok = true)) ∧
    (l.rate = 0 → l.retryAfterSeconds? = none ∧ ∀ a ∈ later, a.2 = false) ∧
    ∀ limits : Limits Float, (rejection limits).header? "retry-after" =
      limits.retryAfterSeconds?.map toString := by
  have heq := (tracks_empty hrate key).answers_eq hrate hcalls (fun c _ ↦ c.1.zero_le)
      (settledBy_empty 0)
  rw [heq] at hrefused
  obtain ⟨left, behind, hleft, hlow, rfl⟩ := Reference.exists_after_refusal hmax hrate
    (Reference.sound_full l.maxTokens) (Schedule.pairwise_checksOf hcalls key) hrefused
  refine ⟨?_, ?_, header?_rejection⟩
  · intro hpositive
    have hsome : l.retryAfterSeconds?.isSome := by
      simp [Limits.retryAfterSeconds?, Amount.lt, Amount.ofNat, hpositive]
    obtain ⟨seconds, hseconds⟩ := Option.isSome_iff_exists.1 hsome
    refine ⟨seconds, hseconds, ?_⟩
    intro hbits refused t' ok rest hrest hnone hlate
    have htoken := Limits.one_le_restored hpositive hseconds hbits t
    exact Reference.admitted_of_due hmax hrate
      (htoken.trans (le_add_of_nonneg_left hleft)) hlate hnone hrest
  · intro hzero
    refine ⟨Limits.retryAfterSeconds?_of_rate_zero hzero, ?_⟩
    rw [hzero]
    exact Reference.refused_of_rate_zero hlow behind

theorem wait_suffices_crowd :
    let l : Limits ℚ := ⟨1, 7 / 10, 1⟩
    let calls : Schedule :=
      [(0, .check "a"), (0, .check "a"), (500000000, .check "b"), (900000000, .check "a"),
      (1000000000, .check "c"), (1200000000, .prune), (1200000000, .status "a"),
        (2000000000, .check "a")]
    1 ≤ l.maxTokens ∧ 0 ≤ l.rate ∧ calls.Timely ∧
      answers l "a" .empty calls =
        [(0, true)] ++ (0, false) :: [(900000000, false), (2000000000, true)] ∧
      l.retryAfterSeconds? = some 2 ∧
      ∀ ok, [(900000000, false), (2000000000, true)] = [(900000000, false)] ++ (2000000000, ok) :: [] →
        ok = true := by
  intro l calls
  have hmax : 1 ≤ l.maxTokens := by decide
  have hrate : 0 ≤ l.rate := by norm_num [l]
  have hcalls : calls.Timely := by decide
  have hanswers : answers l "a" .empty calls =
      [(0, true)] ++ (0, false) :: [(900000000, false), (2000000000, true)] := by decide +kernel
  have htold : l.retryAfterSeconds? = some 2 := by decide +kernel
  obtain ⟨hadmitted, -, -⟩ := wait_suffices l hmax hrate calls hcalls "a" hanswers
  obtain ⟨seconds, hseconds, hnext⟩ := hadmitted (by norm_num [l])
  obtain rfl : seconds = 2 := Option.some.inj (hseconds.symm.trans htold)
  refine ⟨hmax, hrate, hcalls, hanswers, htold, fun ok hok ↦ ?_⟩
  exact hnext (by decide) [(900000000, false)] 2000000000 ok [] hok (by simp) (by decide)

end Buckets

end FrontDoor.RateLimit
