import FrontDoor.Proofs.HookLayer

namespace FrontDoor

namespace Contexts

variable {υ : Type}

inductive Due where
  | never
  | upTo (instant : Nat)
  | within (nanos : Nat)

/-- How a context is made: with a token below the server's or one of its own, and with an identifier
of its own or a given one. -/
structure Recipe where
  ofServer : Bool
  requestId : Option Uuid
  due : Due

inductive Deed where
  | make (recipe : Recipe)
  | clone (i : Nat)
  | cancel (i : Nat)
  | cancelServer
  | advance (nanos : Nat)

namespace Due

def deadline (clock : Nat) : Due → Option Nat
  | never => none
  | upTo instant => some instant
  | within nanos => some (clock + nanos)

def Fits (clock : Nat) : Due → Prop
  | never | upTo _ => True
  | within nanos => (clock + nanos) / 1000000000 ≤ RequestContext.lastSecond

def impose (ctx : RequestContext) : Due → Effect υ RequestContext
  | never => return ctx
  | upTo instant => return ctx.withDeadline instant
  | within nanos => ctx.withTimeout nanos

theorem outcome_impose {due : Due} {w : World υ} (h : due.Fits w.clock) (requestId : Uuid)
    (token : Token) :
    (due.impose ⟨requestId, token, none⟩).outcome w =
      (.ok ⟨requestId, token, due.deadline w.clock⟩, w) := by
  cases due with
  | never => rfl
  | upTo instant => rfl
  | within nanos => exact RequestContext.outcome_withTimeout h _

end Due

namespace Recipe

def tokens (r : Recipe) : Nat := if r.ofServer then 2 else 1

def entrusted (r : Recipe) (server : Token) : Effect υ RequestContext := do
  let ctx ← RequestContext.new
  if r.ofServer then return ctx.withToken (← Effect.childToken server) else return ctx

def make (r : Recipe) (server : Token) : Effect υ RequestContext := do
  let ctx ← r.entrusted server
  r.due.impose (r.requestId.elim ctx ctx.withRequestId)

end Recipe

namespace Deed

def perform (server : Token) (cs : List RequestContext) : Deed → Effect υ (List RequestContext)
  | make recipe => return cs ++ [← recipe.make server]
  | clone i => return cs ++ cs[i]?.toList
  | cancel i => do
    if let some ctx := cs[i]? then Effect.cancel ctx.token
    return cs
  | cancelServer => do
    Effect.cancel server
    return cs
  | advance nanos => do
    Effect.advance nanos
    return cs

def performAll (server : Token) : List Deed → List RequestContext → Effect υ (List RequestContext)
  | [], cs => return cs
  | deed :: deeds, cs => do performAll server deeds (← deed.perform server cs)

/-- A server's token, and all contexts that a program has made and cloned in the end. -/
def live (deeds : List Deed) : Effect υ (Token × List RequestContext) := do
  let server ← Effect.newToken
  return (server, ← performAll server deeds [])

def Fits (clock : Nat) : Deed → Prop
  | make recipe => recipe.due.Fits clock
  | _ => True

theorem outcome_performAll_append {server : Token} {earlier : List Deed} {cs cs₁ : List RequestContext}
    {w w₁ : World υ} (h : (performAll server earlier cs).outcome w = (.ok cs₁, w₁))
    (later : List Deed) :
    (performAll server (earlier ++ later) cs).outcome w =
      (performAll server later cs₁).outcome w₁ := by
  induction earlier generalizing cs w with
  | nil =>
    cases h
    rfl
  | cons deed earlier ih =>
    obtain ⟨cs₂, w₂, hdeed, hrest⟩ := Effect.outcome_bind_eq_ok.1 h
    rw [List.cons_append, performAll, Effect.outcome_bind_of_ok hdeed]
    exact ih hrest

end Deed

/-- A context as it was made, with what the world counted then. -/
structure Birth where
  original : Nat
  recipe : Recipe
  clock : Nat
  tokens : Nat
  identifiers : Nat

namespace Birth

def own (b : Birth) : Nat := b.tokens + if b.recipe.ofServer then 1 else 0

def deadline (b : Birth) : Option Nat := b.recipe.due.deadline b.clock

def context (server : Nat) (b : Birth) : RequestContext where
  requestId := b.recipe.requestId.getD (World.identifier b.identifiers)
  token := ⟨b.own :: if b.recipe.ofServer then [server] else []⟩
  deadline := b.deadline

theorem mem_lineage {n server : Nat} (b : Birth) (h : n ∈ (b.context server).token.lineage) :
    n = b.own ∨ n = server := by
  rcases List.mem_cons.1 h with h | h
  · exact .inl h
  · split at h
    · exact .inr (List.mem_singleton.1 h)
    · cases h

theorem outcome_make {r : Recipe} {w : World υ} (h : r.due.Fits w.clock) (original s : Nat) :
    (r.make ⟨[s]⟩).outcome w = (.ok (context s ⟨original, r, w.clock, w.tokens, w.identifiers⟩),
      { w with tokens := w.tokens + r.tokens, identifiers := w.identifiers + 1 }) := by
  obtain ⟨ofServer, requestId, due⟩ := r
  let w₁ : World υ :=
    { w with tokens := w.tokens + if ofServer then 2 else 1, identifiers := w.identifiers + 1 }
  let own : Token := ⟨(w.tokens + if ofServer then 1 else 0) :: if ofServer then [s] else []⟩
  have hentrusted : (Recipe.entrusted ⟨ofServer, requestId, due⟩ ⟨[s]⟩).outcome w =
      (.ok ⟨World.identifier w.identifiers, own, none⟩, w₁) := by
    cases ofServer <;> rfl
  have himposed (id : Uuid) := Due.outcome_impose (w := w₁) h id own
  rw [Recipe.make, Effect.outcome_bind_of_ok hentrusted]
  cases requestId with
  | none => exact himposed _
  | some id => exact himposed id

end Birth

structure Chronicle where
  clock : Nat
  tokens : Nat
  identifiers : Nat
  births : List Birth

namespace Chronicle

variable {c : Chronicle} {deeds : List Deed} {s : Nat}

def opening (w : World υ) : Chronicle := ⟨w.clock, w.tokens + 1, w.identifiers, []⟩

def note (c : Chronicle) : Deed → Chronicle
  | .make recipe =>
    { c with
      tokens := c.tokens + recipe.tokens
      identifiers := c.identifiers + 1
      births := c.births ++ [⟨c.births.length, recipe, c.clock, c.tokens, c.identifiers⟩] }
  | .clone i => { c with births := c.births ++ c.births[i]?.toList }
  | .cancel _ | .cancelServer => c
  | .advance nanos => { c with clock := c.clock + nanos }

def after (c : Chronicle) (deeds : List Deed) : Chronicle := deeds.foldl note c

def Fit : Chronicle → List Deed → Prop
  | _, [] => True
  | c, deed :: deeds => deed.Fits c.clock ∧ Fit (c.note deed) deeds

theorem after_append (c : Chronicle) (earlier later : List Deed) :
    c.after (earlier ++ later) = (c.after earlier).after later := List.foldl_append

theorem fit_append (c : Chronicle) (earlier later : List Deed) :
    c.Fit (earlier ++ later) ↔ c.Fit earlier ∧ (c.after earlier).Fit later := by
  induction earlier generalizing c with
  | nil => exact (and_iff_right trivial).symm
  | cons deed earlier ih => exact (and_congr_right' (ih (c.note deed))).trans and_assoc.symm

/-- Somewhere in the history the token of this context was cancelled, through it or one of its
clones. -/
def CancelledThrough (c : Chronicle) (deeds : List Deed) (original : Nat) : Prop :=
  ∃ earlier i later, deeds = earlier ++ .cancel i :: later ∧
    ∃ b, (c.after earlier).births[i]? = some b ∧ b.original = original

/-- Each entry is that of its original, and no two originals have one token. -/
structure Sound (s : Nat) (c : Chronicle) : Prop where
  original : ∀ b ∈ c.births, c.births[b.original]? = some b
  issued : ∀ b ∈ c.births, s < b.own ∧ b.own < c.tokens
  server : s < c.tokens
  apart : ∀ b ∈ c.births, ∀ b' ∈ c.births, b.own = b'.own → b = b'

theorem sound_opening (w : World υ) : (opening w).Sound w.tokens where
  original := by simp [opening]
  issued := by simp [opening]
  server := Nat.lt_succ_self _
  apart := by simp [opening]

theorem births_prefix_note (c : Chronicle) (deed : Deed) : c.births <+: (c.note deed).births := by
  cases deed with
  | make | clone => exact List.prefix_append _ _
  | cancel | cancelServer | advance => exact List.prefix_rfl

theorem births_prefix_after (c : Chronicle) (deeds : List Deed) :
    c.births <+: (c.after deeds).births := by
  induction deeds generalizing c with
  | nil => exact List.prefix_rfl
  | cons deed deeds ih => exact (births_prefix_note c deed).trans (ih (c.note deed))

theorem mem_append_copy {births : List Birth} (i : Nat) (b : Birth) :
    b ∈ births ++ births[i]?.toList ↔ b ∈ births := by
  refine List.mem_append.trans ⟨?_, Or.inl⟩
  rintro (hb | hb)
  · exact hb
  · exact List.mem_of_getElem? (Option.mem_toList.1 hb)

namespace Sound

theorem eq_of_original (h : c.Sound s) {b b' : Birth} (hb : b ∈ c.births) (hb' : b' ∈ c.births)
    (heq : b.original = b'.original) : b = b' := by
  have hat := h.original b hb
  rw [heq, h.original b' hb'] at hat
  exact (Option.some.inj hat).symm

theorem original_lt (h : c.Sound s) {b : Birth} (hb : b ∈ c.births) : b.original < c.births.length :=
  (List.getElem?_eq_some_iff.1 (h.original b hb)).1

theorem note_make (h : c.Sound s) (recipe : Recipe) : (c.note (.make recipe)).Sound s := by
  let made : Birth := ⟨c.births.length, recipe, c.clock, c.tokens, c.identifiers⟩
  have hown : c.tokens ≤ made.own ∧ made.own < c.tokens + recipe.tokens := by
    simp only [made, Birth.own, Recipe.tokens]
    split <;> omega
  have hserver := h.server
  have hcases {b : Birth} (hb : b ∈ c.births ++ [made]) : b ∈ c.births ∨ b = made :=
    (List.mem_append.1 hb).imp_right List.mem_singleton.1
  refine ⟨fun b hb ↦ ?_, fun b hb ↦ ?_, Nat.lt_add_right _ hserver, fun b hb b' hb' heq ↦ ?_⟩
  · rcases hcases hb with hb | rfl
    · exact (List.getElem?_append_left (h.original_lt hb)).trans (h.original b hb)
    · exact List.getElem?_concat_length
  · rcases hcases hb with hb | rfl
    · exact ⟨(h.issued b hb).1, Nat.lt_add_right _ (h.issued b hb).2⟩
    · exact ⟨Nat.lt_of_lt_of_le hserver hown.1, hown.2⟩
  · rcases hcases hb with hb | rfl <;> rcases hcases hb' with hb' | rfl
    · exact h.apart b hb b' hb' heq
    · have hlt := (h.issued b hb).2
      omega
    · have hlt := (h.issued b' hb').2
      omega
    · rfl

theorem note_clone (h : c.Sound s) (i : Nat) : (c.note (.clone i)).Sound s := by
  have hold (b : Birth) (hb : b ∈ (c.note (.clone i)).births) :
      b ∈ c.births := (mem_append_copy i b).1 hb
  refine ⟨fun b hb ↦ ?_, fun b hb ↦ h.issued b (hold b hb), h.server,
    fun b hb b' hb' ↦ h.apart b (hold b hb) b' (hold b' hb')⟩
  have hb := hold b hb
  exact (List.getElem?_append_left (h.original_lt hb)).trans (h.original b hb)

theorem note (h : c.Sound s) (deed : Deed) : (c.note deed).Sound s := by
  cases deed with
  | make recipe => exact h.note_make recipe
  | clone i => exact h.note_clone i
  | cancel | cancelServer => exact h
  | advance nanos => exact ⟨h.original, h.issued, h.server, h.apart⟩

theorem after (h : c.Sound s) (deeds : List Deed) : (c.after deeds).Sound s := by
  induction deeds generalizing c with
  | nil => exact h
  | cons deed deeds ih => exact ih (h.note deed)

end Sound

theorem cancelledThrough_concat (c : Chronicle) (deeds : List Deed) (deed : Deed) (original : Nat) :
    c.CancelledThrough (deeds ++ [deed]) original ↔ c.CancelledThrough deeds original ∨
      ∃ i, deed = .cancel i ∧ ∃ b, (c.after deeds).births[i]? = some b ∧ b.original = original := by
  constructor
  · rintro ⟨earlier, i, later, heq, hb⟩
    rcases List.eq_nil_or_concat' later with rfl | ⟨later, last, rfl⟩
    · obtain ⟨rfl, hdeed⟩ := List.append_inj' heq rfl
      exact .inr ⟨i, List.singleton_inj.1 hdeed, hb⟩
    · rw [← List.cons_append, ← List.append_assoc] at heq
      obtain ⟨rfl, -⟩ := List.append_inj' heq rfl
      exact .inl ⟨earlier, i, later, rfl, hb⟩
  · rintro (⟨earlier, i, later, rfl, hb⟩ | ⟨i, rfl, hb⟩)
    · exact ⟨earlier, i, later ++ [deed], by rw [List.append_assoc, List.cons_append], hb⟩
    · exact ⟨deeds, i, [], rfl, hb⟩

theorem cancelledThrough_concat_of_ne {deed : Deed} (h : ∀ i, deed ≠ .cancel i) (c : Chronicle)
    (deeds : List Deed) (original : Nat) :
    c.CancelledThrough (deeds ++ [deed]) original ↔ c.CancelledThrough deeds original :=
  (cancelledThrough_concat c deeds deed original).trans (or_iff_left fun ⟨i, hi, _⟩ ↦ h i hi)

theorem CancelledThrough.exists_birth {original : Nat} (h : c.CancelledThrough deeds original) :
    ∃ b ∈ (c.after deeds).births, b.original = original := by
  obtain ⟨earlier, i, later, rfl, b, hb, heq⟩ := h
  have hprefix := births_prefix_after (c.after earlier) (.cancel i :: later)
  rw [← after_append] at hprefix
  exact ⟨b, hprefix.mem (List.mem_of_getElem? hb), heq⟩

end Chronicle

end Contexts

end FrontDoor
