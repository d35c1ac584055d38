import FrontDoor.Proofs.RateLimit.Exact

namespace FrontDoor.RateLimit

inductive Call where
  | check (key : String)
  | status (key : String)
  | prune
deriving DecidableEq

/-- Calls in the order in which they are made, each with its clock reading. -/
abbrev Schedule := List (ℕ × Call)

namespace Schedule

def Timely (calls : Schedule) : Prop := calls.Pairwise fun a b ↦ a.1 ≤ b.1

instance (calls : Schedule) : Decidable calls.Timely :=
  inferInstanceAs (Decidable (calls.Pairwise fun a b ↦ a.1 ≤ b.1))

def checksOf (calls : Schedule) (key : String) : List ℕ :=
  (calls.filter fun c ↦ c.2 = .check key).map (·.1)

end Schedule

namespace Buckets

variable {α : Type} [Amount α]

def after (bs : Buckets α) (l : Limits α) (now : ℕ) : Call → Buckets α
  | .check key => (bs.check l now key).2
  | .status key => (bs.status l now key).2
  | .prune => (bs.prune l now).2

def afterAll {α : Type} [Amount α] (bs : Buckets α) (l : Limits α) (calls : Schedule) : Buckets α :=
  calls.foldl (fun bs c ↦ bs.after l c.1 c.2) bs

theorem afterAll_append {α : Type} [Amount α] (bs : Buckets α) (l : Limits α)
    (earlier later : Schedule) :
    bs.afterAll l (earlier ++ later) = (bs.afterAll l earlier).afterAll l later :=
  List.foldl_append

def answer? (bs : Buckets α) (l : Limits α) (key : String) (now : ℕ) : Call → Option Bool
  | .check k => if k = key then some (bs.check l now k).1 else none
  | .status _ => none
  | .prune => none

/-- All checks of a client in a run, each with its clock reading and its answer. -/
def answers (l : Limits α) (key : String) : Buckets α → Schedule → List (ℕ × Bool)
  | _, [] => []
  | bs, (now, call) :: rest =>
    ((bs.answer? l key now call).map (now, ·)).toList ++ answers l key (bs.after l now call) rest

theorem answers_append (l : Limits α) (key : String) (bs : Buckets α) (earlier later : Schedule) :
    answers l key bs (earlier ++ later) =
      answers l key bs earlier ++ answers l key (bs.afterAll l earlier) later := by
  induction earlier generalizing bs with
  | nil => rfl
  | cons c earlier ih =>
    rw [List.cons_append, answers, answers, ih, List.append_assoc, afterAll, afterAll, List.foldl_cons]

def drawn (bs : Buckets α) (l : Limits α) (now : ℕ) (key : String) : Bucket α :=
  (((bs.prepare l now key).byClient.get? key).getD (Bucket.full l now)).refill l now

theorem check_eq (bs : Buckets α) (l : Limits α) (now : ℕ) (key : String) :
    bs.check l now key = ((bs.drawn l now key).take.1,
      { bs.prepare l now key with
        byClient := (bs.prepare l now key).byClient.insert key (bs.drawn l now key).take.2 }) := rfl

end Buckets

variable {l : Limits ℚ} {bs : Buckets ℚ} {now t : ℕ}

theorem RefilledBy.mono {found : Option (Bucket ℚ)} (h : RefilledBy found now) (ht : now ≤ t) :
    RefilledBy found t :=
  fun b hb ↦ (h b hb).trans ht

theorem Bucket.tokens_take (b : Bucket ℚ) :
    b.take.2.tokens = if 1 ≤ b.tokens then b.tokens - 1 else b.tokens := by
  by_cases h : 1 ≤ b.tokens
  · simp [take, Amount.le, Amount.ofNat, Amount.sub, h]
  · simp [take, Amount.le, Amount.ofNat, h]

theorem Bucket.refilled_take (b : Bucket ℚ) : b.take.2.refilled = b.refilled := by
  rw [take]
  split <;> rfl

theorem Bucket.take_fst (b : Bucket ℚ) : b.take.1 = decide (1 ≤ b.tokens) := by
  by_cases h : 1 ≤ b.tokens
  · simp [take, Amount.le, Amount.ofNat, h]
  · simp [take, Amount.le, Amount.ofNat, h]

namespace Buckets

def SettledBy (bs : Buckets ℚ) (t : ℕ) : Prop := ∀ key, RefilledBy (bs.byClient.get? key) t

theorem SettledBy.mono (h : bs.SettledBy now) (ht : now ≤ t) :
    bs.SettledBy t := fun key ↦ (h key).mono ht

theorem settledBy_empty (t : ℕ) : (empty : Buckets ℚ).SettledBy t := by
  intro key b hb
  cases hb

theorem prepare_cases (bs : Buckets ℚ) (l : Limits ℚ) (now : ℕ) (key : String) :
    (bs.prepare l now key).byClient = bs.byClient ∨
    (bs.prepare l now key).byClient = sweep l now bs.byClient := by
  rw [prepare]
  split
  · exact .inl rfl
  · split
    · exact .inr rfl
    · exact .inl rfl

theorem settledBy_prepare (h : bs.SettledBy now) (key : String) :
    (bs.prepare l now key).SettledBy now := by
  intro k
  rcases prepare_cases bs l now key with heq | heq
  · rw [heq]
    exact h k
  · rw [heq]
    exact refilledBy_sweep _ k

theorem balance_prepare (hrate : 0 ≤ l.rate) (h : bs.SettledBy now) (key k : String) (ht : now ≤ t) :
    balance l ((bs.prepare l now key).byClient.get? k) t = balance l (bs.byClient.get? k) t := by
  rcases prepare_cases bs l now key with heq | heq
  · rw [heq]
  · rw [heq]
    exact balance_sweep hrate (h k) ht

theorem tokens_drawn (hrate : 0 ≤ l.rate) (h : bs.SettledBy now) (key : String) :
    (bs.drawn l now key).tokens = balance l (bs.byClient.get? key) now := by
  rw [← balance_prepare hrate h key key le_rfl, ← balance_getD hrate _ now]
  rfl

theorem check_fst (hrate : 0 ≤ l.rate) (h : bs.SettledBy now) (key : String) :
    (bs.check l now key).1 = decide (1 ≤ balance l (bs.byClient.get? key) now) := by
  rw [check_eq, Bucket.take_fst, tokens_drawn hrate h]

theorem balance_check_self (hrate : 0 ≤ l.rate) (h : bs.SettledBy now) (key : String) (t : ℕ) :
    balance l ((bs.check l now key).2.byClient.get? key) t =
      min ((if 1 ≤ balance l (bs.byClient.get? key) now then balance l (bs.byClient.get? key) now - 1
        else balance l (bs.byClient.get? key) now) +
          ((t - now : ℕ) : ℚ) / 1000000000 * l.rate) l.cap := by
  rw [check_eq, Dict.get?_insert, if_pos rfl, balance, Bucket.tokens_refill, Bucket.tokens_take,
    tokens_drawn hrate h, Bucket.refilled_take]
  rfl

theorem get?_status (bs : Buckets ℚ) (l : Limits ℚ) (now : ℕ) (key k : String) :
    (bs.status l now key).2.byClient.get? k =
      if key = k then (bs.byClient.get? k).map (·.refill l now) else bs.byClient.get? k := by
  by_cases hk : key = k
  · subst hk
    rw [if_pos rfl]
    cases hb : bs.byClient.get? key with
    | none => simp only [status, hb, Option.map_none]
    | some b => simp only [status, hb, Dict.get?_insert, if_true, Option.map_some]
  · rw [if_neg hk]
    cases hb : bs.byClient.get? key with
    | none => simp only [status, hb]
    | some b => simp only [status, hb, Dict.get?_insert, if_neg hk]

theorem settledBy_after (h : bs.SettledBy now) (call : Call) :
    (bs.after l now call).SettledBy now := by
  intro k
  cases call with
  | check key =>
    rw [after, check_eq, Dict.get?_insert]
    split
    · rintro b ⟨⟩
      rw [Bucket.refilled_take]
      exact le_rfl
    · exact settledBy_prepare h key k
  | status key =>
    rw [after, get?_status]
    split
    · intro b hb
      obtain ⟨b₀, -, rfl⟩ := Option.map_eq_some_iff.1 hb
      exact le_rfl
    · exact h k
  | prune => exact refilledBy_sweep _ k

theorem balance_after (hrate : 0 ≤ l.rate) (h : bs.SettledBy now) {call : Call} {key : String}
    (hcall : call ≠ .check key) (ht : now ≤ t) :
    balance l ((bs.after l now call).byClient.get? key) t = balance l (bs.byClient.get? key) t := by
  cases call with
  | check k =>
    have hk : k ≠ key := fun heq ↦ hcall (congrArg Call.check heq)
    rw [after, check_eq, Dict.get?_insert, if_neg hk]
    exact balance_prepare hrate h k key ht
  | status k =>
    rw [after, get?_status]
    split
    · exact balance_refill hrate (h key) ht
    · rfl
  | prune => exact balance_sweep hrate (h key) ht

end Buckets

end FrontDoor.RateLimit
