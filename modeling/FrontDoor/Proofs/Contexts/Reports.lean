import FrontDoor.Proofs.Contexts.Chronicle
import FrontDoor.Proofs.Hooks.Lifetime

namespace FrontDoor

namespace Contexts

open Chronicle (opening)

variable {υ : Type} {w₀ w w' : World υ} {done deeds : List Deed} {deed : Deed} {births : List Birth}
  {cs cs' : List RequestContext}

/-- What a context says of itself, against its entry in the chronicle. The time left is cut off at
zero. -/
structure Tells (c₀ : Chronicle) (deeds : List Deed) (w : World υ) (b : Birth) (ctx : RequestContext) :
    Prop where
  requestId : ∀ id, b.recipe.requestId = some id → ctx.requestId = id
  cancelled : ∃ answer, ctx.isCancelled.outcome w = (.ok answer, w) ∧
    (answer = true ↔ c₀.CancelledThrough deeds b.original ∨ b.recipe.ofServer = true ∧
      .cancelServer ∈ deeds)
  remaining : ctx.remaining.outcome w = (.ok (b.deadline.map (· - w.clock)), w)
  expired : ∃ answer, ctx.isExpired.outcome w = (.ok answer, w) ∧
    (answer = true ↔ ∃ instant, b.deadline = some instant ∧ instant ≤ w.clock)

/-- What the contexts of a program are like after some of its deeds. Clones of one context are the
same, and so are their reports; contexts that are no clones of each other have tokens that go their
own ways. -/
structure Reports (c₀ : Chronicle) (deeds : List Deed) (server : Token) (cs : List RequestContext)
    (w : World υ) : Prop where
  length : cs.length = (c₀.after deeds).births.length
  clock : w.clock = (c₀.after deeds).clock
  tells : ∀ b ctx, (b, ctx) ∈ (c₀.after deeds).births.zip cs → Tells c₀ deeds w b ctx
  clones : ∀ b ctx b' ctx', (b, ctx) ∈ (c₀.after deeds).births.zip cs →
    (b', ctx') ∈ (c₀.after deeds).births.zip cs →
    if b.original = b'.original then ctx = ctx' else Token.Apart υ ctx.token ctx'.token
  spares : ∀ ctx ∈ cs, ∀ v : World υ, (v.cancel ctx.token).isCancelled server = v.isCancelled server
  cancelledServer : w.isCancelled server = true ↔ .cancelServer ∈ deeds

structure Faithful (w₀ : World υ) (done : List Deed) (births : List Birth) (cs : List RequestContext)
    (w : World υ) :
    Prop where
  told : (opening w₀).after done = ⟨w.clock, w.tokens, w.identifiers, births⟩
  contexts : cs = births.map (Birth.context w₀.tokens)
  issued : ∀ n ∈ w.cancelled, n < w.tokens
  server : w₀.tokens ∈ w.cancelled ↔ .cancelServer ∈ done
  own : ∀ b ∈ births, b.own ∈ w.cancelled ↔ (opening w₀).CancelledThrough done b.original

structure Later (cs : List RequestContext) (w : World υ) (cs' : List RequestContext)
    (w' : World υ) : Prop where
  contexts : cs <+: cs'
  clock : w.clock ≤ w'.clock
  cancelled : w.cancelled ⊆ w'.cancelled

theorem later_refl (cs : List RequestContext) (w : World υ) : Later cs w cs w :=
  ⟨List.prefix_rfl, Nat.le_refl _, List.Subset.refl _⟩

theorem Later.trans {cs₁ : List RequestContext} {w₁ : World υ} (h : Later cs w cs₁ w₁)
    (h' : Later cs₁ w₁ cs' w') :
    Later cs w cs' w' :=
  ⟨h.contexts.trans h'.contexts, Nat.le_trans h.clock h'.clock,
    List.Subset.trans h.cancelled h'.cancelled⟩

/-- The effect returns later contexts, and the chronicle of `done` tells what it leaves. -/
def Proceeds (w₀ : World υ) (done : List Deed) (cs : List RequestContext) (w : World υ)
    (body : Effect υ (List RequestContext)) : Prop :=
  ∃ births' cs' w', body.outcome w = (.ok cs', w') ∧ Faithful w₀ done births' cs' w' ∧
    Later cs w cs' w'

namespace Faithful

theorem of_issued (h : ∀ n ∈ w₀.cancelled, n < w₀.tokens) :
    Faithful w₀ [] [] [] { w₀ with tokens := w₀.tokens + 1 } where
  told := rfl
  contexts := rfl
  issued n hn := Nat.lt_succ_of_lt (h n hn)
  server := iff_of_false (fun hn ↦ Nat.lt_irrefl _ (h _ hn)) List.not_mem_nil
  own _ hb := absurd hb List.not_mem_nil

variable (h : Faithful w₀ done births cs w)
include h

theorem sound : Chronicle.Sound w₀.tokens ⟨w.clock, w.tokens, w.identifiers, births⟩ :=
  h.told ▸ (Chronicle.sound_opening w₀).after done

theorem own_of_new {b : Birth} (hown : w.tokens ≤ b.own) (horiginal : births.length ≤ b.original) :
    b.own ∈ w.cancelled ↔ (opening w₀).CancelledThrough done b.original := by
  refine iff_of_false (fun hn ↦ Nat.not_le.2 (h.issued _ hn) hown) fun hc ↦ ?_
  obtain ⟨b', hb', heq⟩ := hc.exists_birth
  rw [h.told] at hb'
  exact Nat.not_le.2 (h.sound.original_lt hb') (heq ▸ horiginal)

theorem told_concat (deed : Deed) :
    (opening w₀).after (done ++ [deed]) =
      Chronicle.note ⟨w.clock, w.tokens, w.identifiers, births⟩ deed := by
  rw [Chronicle.after_append, h.told]
  rfl

theorem of_quiet {births' : List Birth} (hquiet : deed ≠ .cancelServer ∧ ∀ i, deed ≠ .cancel i)
    (hnote : Chronicle.note ⟨w.clock, w.tokens, w.identifiers, births⟩ deed =
      ⟨w'.clock, w'.tokens, w'.identifiers, births'⟩)
    (hcancelled : w'.cancelled = w.cancelled) (htokens : w.tokens ≤ w'.tokens)
    (hbirths : ∀ b ∈ births', b ∈ births ∨ w.tokens ≤ b.own ∧ births.length ≤ b.original)
    (hcontexts : cs' = births'.map (Birth.context w₀.tokens)) :
    Faithful w₀ (done ++ [deed]) births' cs' w' where
  told := (h.told_concat deed).trans hnote
  contexts := hcontexts
  issued n hn := Nat.lt_of_lt_of_le (h.issued n (hcancelled ▸ hn)) htokens
  server := by
    rw [hcancelled, h.server, List.mem_append, List.mem_singleton, or_iff_left hquiet.1.symm]
  own b hb := by
    rw [hcancelled, Chronicle.cancelledThrough_concat_of_ne hquiet.2]
    -- A new entry has a position and a token that no cancellation so far can be about.
    rcases hbirths b hb with hb | ⟨hown, horiginal⟩
    · exact h.own b hb
    · exact h.own_of_new hown horiginal

theorem make {recipe : Recipe} (hfits : recipe.due.Fits w.clock) :
    Proceeds w₀ (done ++ [.make recipe]) cs w (Deed.perform ⟨[w₀.tokens]⟩ cs (.make recipe)) := by
  let b : Birth := ⟨births.length, recipe, w.clock, w.tokens, w.identifiers⟩
  have hmade := Birth.outcome_make hfits births.length w₀.tokens
  refine ⟨births ++ [b], _, _, Effect.outcome_bind_of_ok hmade _,
    h.of_quiet (by simp) rfl rfl (Nat.le_add_right _ _) ?_ ?_,
    List.prefix_append _ _, Nat.le_refl _, List.Subset.refl _⟩
  · intro b' hb'
    rcases List.mem_append.1 hb' with hb' | hb'
    · exact .inl hb'
    · rw [List.mem_singleton.1 hb']
      exact .inr ⟨Nat.le_add_right _ _, Nat.le_refl _⟩
  · rw [List.map_append, ← h.contexts]
    rfl

theorem clone (i : Nat) :
    Proceeds w₀ (done ++ [.clone i]) cs w (Deed.perform ⟨[w₀.tokens]⟩ cs (.clone i)) := by
  refine ⟨births ++ births[i]?.toList, cs ++ cs[i]?.toList, w, rfl,
    h.of_quiet (by simp) rfl rfl (Nat.le_refl _) (fun b hb ↦ .inl ?_) ?_, List.prefix_append _ _,
      Nat.le_refl _,
    List.Subset.refl _⟩
  · exact (Chronicle.mem_append_copy i b).1 hb
  · rw [List.map_append, ← Option.toList_map, ← List.getElem?_map, ← h.contexts]

theorem advance (nanos : Nat) :
    Proceeds w₀ (done ++ [.advance nanos]) cs w (Deed.perform ⟨[w₀.tokens]⟩ cs (.advance nanos)) :=
  ⟨births, cs, { w with clock := w.clock + nanos }, rfl,
    h.of_quiet (by simp) rfl rfl (Nat.le_refl _) (fun _ ↦ .inl) h.contexts, List.prefix_rfl,
      Nat.le_add_right _ _,
    List.Subset.refl _⟩

theorem cancelServer :
    Proceeds w₀ (done ++ [.cancelServer]) cs w (Deed.perform ⟨[w₀.tokens]⟩ cs .cancelServer) := by
  refine ⟨births, cs, w.cancel ⟨[w₀.tokens]⟩, rfl,
    ⟨h.told_concat _, h.contexts, ?_, ?_, fun b hb ↦ ?_⟩,
    List.prefix_rfl, Nat.le_refl _, List.subset_cons_self _ _⟩
  · exact List.forall_mem_cons.2 ⟨h.sound.server, h.issued⟩
  · exact iff_of_true List.mem_cons_self (List.mem_append_right _ List.mem_cons_self)
  · have hne : b.own ≠ w₀.tokens := Nat.ne_of_gt (h.sound.issued b hb).1
    rw [World.cancel, List.mem_cons, or_iff_right hne, h.own b hb,
      Chronicle.cancelledThrough_concat_of_ne fun _ ↦ Deed.noConfusion]

theorem cancel_of_none {i : Nat} (hi : births[i]? = none) :
    Proceeds w₀ (done ++ [.cancel i]) cs w (Deed.perform ⟨[w₀.tokens]⟩ cs (.cancel i)) := by
  have hcs : cs[i]? = none := by rw [h.contexts, List.getElem?_map, hi, Option.map_none]
  refine ⟨births, cs, w, ?_, ⟨h.told_concat _, h.contexts, h.issued, ?_, fun b hb ↦ ?_⟩,
    later_refl cs w⟩
  · rw [Deed.perform, hcs]
    rfl
  · simp [h.server]
  · have hnone : ¬ ∃ j, Deed.cancel i = .cancel j ∧
        ∃ b', ((opening w₀).after done).births[j]? = some b' ∧ b'.original = b.original := by
      rintro ⟨j, hj, b', hb', -⟩
      cases hj
      rw [h.told, hi] at hb'
      cases hb'
    rw [h.own b hb, Chronicle.cancelledThrough_concat, or_iff_left hnone]

theorem cancel_of_some {i : Nat} {b : Birth} (hi : births[i]? = some b) :
    Proceeds w₀ (done ++ [.cancel i]) cs w (Deed.perform ⟨[w₀.tokens]⟩ cs (.cancel i)) := by
  have hb : b ∈ births := List.mem_of_getElem? hi
  obtain ⟨hserver, hissued⟩ := h.sound.issued b hb
  have hcs : cs[i]? = some (b.context w₀.tokens) := by
    rw [h.contexts, List.getElem?_map, hi, Option.map_some]
  refine ⟨births, cs, w.cancel (b.context w₀.tokens).token, ?_,
    ⟨h.told_concat _, h.contexts, ?_, ?_, fun b' hb' ↦ ?_⟩,
    List.prefix_rfl, Nat.le_refl _, List.subset_cons_self _ _⟩
  · rw [Deed.perform, hcs]
    rfl
  · exact List.forall_mem_cons.2 ⟨hissued, h.issued⟩
  · refine List.mem_cons.trans ?_
    rw [or_iff_right (Nat.ne_of_lt hserver), h.server]
    simp
  · -- Entries with one token are equal, so this cancels the clones of `b` and nothing else.
    have hoccurs : (∃ j, Deed.cancel i = .cancel j ∧
        ∃ b₁, ((opening w₀).after done).births[j]? = some b₁ ∧ b₁.original = b'.original) ↔
          b'.own = b.own := by
      rw [h.told]
      constructor
      · rintro ⟨j, hj, b₁, hb₁, heq⟩
        cases hj
        obtain rfl := Option.some.inj (hi.symm.trans hb₁)
        rw [h.sound.eq_of_original hb hb' heq]
      · intro heq
        exact ⟨i, rfl, b, hi, congrArg Birth.original (h.sound.apart b hb b' hb' heq.symm)⟩
    rw [Chronicle.cancelledThrough_concat, hoccurs, ← h.own b' hb']
    exact List.mem_cons.trans or_comm

theorem step (hfits : deed.Fits w.clock) :
    Proceeds w₀ (done ++ [deed]) cs w (deed.perform ⟨[w₀.tokens]⟩ cs) := by
  cases deed with
  | make recipe => exact h.make hfits
  | clone i => exact h.clone i
  | cancel i =>
    cases hi : births[i]? with
    | none => exact h.cancel_of_none hi
    | some b => exact h.cancel_of_some hi
  | cancelServer => exact h.cancelServer
  | advance nanos => exact h.advance nanos

/-- Forwards over the deeds that are left; the history behind grows by one deed at each step. -/
theorem run (hfit : ((opening w₀).after done).Fit deeds) :
    Proceeds w₀ (done ++ deeds) cs w (Deed.performAll ⟨[w₀.tokens]⟩ deeds cs) := by
  induction deeds generalizing done births cs w with
  | nil => exact ⟨births, cs, w, rfl, (List.append_nil done).symm ▸ h, later_refl cs w⟩
  | cons deed deeds ih =>
    obtain ⟨hfits, hrest⟩ := hfit
    rw [h.told] at hfits
    obtain ⟨births₁, cs₁, w₁, houtcome, h₁, hlater⟩ := h.step hfits
    obtain ⟨births', cs', w', houtcome', h', hlater'⟩ := ih h₁ (by rwa [Chronicle.after_append])
    refine ⟨births', cs', w', ?_, ?_, hlater.trans hlater'⟩
    · rw [Deed.performAll, Effect.outcome_bind_of_ok houtcome, houtcome']
    · rwa [List.append_cons]

theorem mem_zip_iff {b : Birth} {ctx : RequestContext} :
    (b, ctx) ∈ ((opening w₀).after done).births.zip cs ↔ b ∈ births ∧ ctx = b.context w₀.tokens := by
  have hzip := List.zip_map' (f := id) (g := Birth.context w₀.tokens) (l := births)
  rw [List.map_id, ← h.contexts] at hzip
  rw [h.told, hzip, List.mem_map]
  constructor
  · rintro ⟨b', hb', heq⟩
    cases heq
    exact ⟨hb', rfl⟩
  · rintro ⟨hb, rfl⟩
    exact ⟨b, hb, rfl⟩

theorem tells {b : Birth} (hb : b ∈ births) : Tells (opening w₀) done w b (b.context w₀.tokens) where
  requestId id hid := by rw [Birth.context, hid, Option.getD_some]
  cancelled := by
    refine ⟨_, rfl, ?_⟩
    rw [World.isCancelled_iff_lineage, ← h.own b hb, ← h.server]
    cases hserver : b.recipe.ofServer <;> simp [Birth.context, hserver]
  remaining := rfl
  expired := by
    refine ⟨_, rfl, ?_⟩
    cases hdeadline : b.deadline <;>
      simp [RequestContext.isExpiredAt, RequestContext.remainingAt, Birth.context, hdeadline,
        Nat.sub_eq_zero_iff_le]

theorem apart {b b' : Birth} (hb : b ∈ births) (hb' : b' ∈ births) (hne : b.original ≠ b'.original) :
    Token.Apart υ (b.context w₀.tokens).token (b'.context w₀.tokens).token := by
  have hown : b.own ≠ b'.own := fun heq ↦ hne (congrArg Birth.original (h.sound.apart b hb b' hb' heq))
  have hserver := (h.sound.issued b hb).1
  have hserver' := (h.sound.issued b' hb').1
  refine Token.apart_of_not_mem (fun hmem ↦ ?_) fun hmem ↦ ?_
  · rcases b'.mem_lineage hmem with heq | heq <;> omega
  · rcases b.mem_lineage hmem with heq | heq <;> omega

theorem reports : Reports (opening w₀) done ⟨[w₀.tokens]⟩ cs w where
  length := by rw [h.told, h.contexts, List.length_map]
  clock := by rw [h.told]
  tells b ctx hmem := by
    obtain ⟨hb, rfl⟩ := h.mem_zip_iff.1 hmem
    exact h.tells hb
  clones b ctx b' ctx' hmem hmem' := by
    obtain ⟨hb, rfl⟩ := h.mem_zip_iff.1 hmem
    obtain ⟨hb', rfl⟩ := h.mem_zip_iff.1 hmem'
    split
    case isTrue heq => rw [h.sound.eq_of_original hb hb' heq]
    case isFalse hne => exact h.apart hb hb' hne
  spares ctx hctx v := by
    rw [h.contexts] at hctx
    obtain ⟨b, hb, rfl⟩ := List.mem_map.1 hctx
    refine World.isCancelled_cancel_of_not_mem (fun hmem ↦ ?_) v
    exact Nat.ne_of_gt (h.sound.issued b hb).1 (List.mem_singleton.1 hmem)
  cancelledServer := (World.isCancelled_iff w _).trans h.server

end Faithful

/-- At the later moment all contexts of the earlier one are still there, and what was cancelled or
expired still is. -/
structure Lasting (cs : List RequestContext) (w : World υ) (cs' : List RequestContext) (w' : World υ) :
    Prop where
  contexts : cs <+: cs'
  cancelled : ∀ ctx ∈ cs, (ctx.isCancelled.outcome w).1 = .ok true →
    (ctx.isCancelled.outcome w').1 = .ok true
  expired : ∀ ctx ∈ cs, (ctx.isExpired.outcome w).1 = .ok true →
    (ctx.isExpired.outcome w').1 = .ok true

theorem Later.lasting (h : Later cs w cs' w') : Lasting cs w cs' w' where
  contexts := h.contexts
  cancelled ctx _ hbefore := by
    obtain ⟨n, hn, hcancelled⟩ := (World.isCancelled_iff_lineage w ctx.token).1 (Except.ok.inj hbefore)
    exact congrArg Except.ok
      ((World.isCancelled_iff_lineage w' ctx.token).2 ⟨n, hn, h.cancelled hcancelled⟩)
  expired ctx _ hbefore := by
    have hexpired : ctx.isExpiredAt w.clock = true := Except.ok.inj hbefore
    refine congrArg Except.ok ?_
    have hclock := h.clock
    simp only [RequestContext.isExpiredAt, RequestContext.remainingAt, beq_iff_eq,
      Option.map_eq_some_iff] at hexpired ⊢
    obtain ⟨instant, hdeadline, hover⟩ := hexpired
    exact ⟨instant, hdeadline, by omega⟩

theorem outcome_live {server : Nat} (hw : w₀.tokens = server)
    (h : (Deed.performAll ⟨[server]⟩ deeds []).outcome { w₀ with tokens := w₀.tokens + 1 } =
      (.ok cs, w)) :
    (Deed.live deeds).outcome w₀ = (.ok (⟨[server]⟩, cs), w) := by
  subst hw
  rw [Deed.live, Effect.outcome_bind_of_ok (Effect.outcome_newToken w₀), Effect.outcome_bind_of_ok h]
  rfl

/-- Let a server get its token, and let any program make contexts, clone and cancel them, cancel the
server's token and let time pass. At every moment of it all contexts report what the history says
about them, and no later moment takes back that one is cancelled or expired. -/
theorem reports_from_history (w : World υ) (deeds : List Deed)
    (hissued : ∀ n ∈ w.cancelled, n < w.tokens) (hfit : (opening w).Fit deeds) :
    ∃ server cs w', (Deed.live deeds).outcome w = (.ok (server, cs), w') ∧
      ∀ earlier later, deeds = earlier ++ later → ∃ cs₁ w₁,
        (Deed.live earlier).outcome w = (.ok (server, cs₁), w₁) ∧
        Reports (opening w) earlier server cs₁ w₁ ∧
        (Deed.performAll server later cs₁).outcome w₁ = (.ok cs, w') ∧ Lasting cs₁ w₁ cs w' := by
  have hopening := Faithful.of_issued hissued
  obtain ⟨births, cs, w', hall, -, -⟩ := hopening.run hfit
  refine ⟨⟨[w.tokens]⟩, cs, w', outcome_live rfl hall, ?_⟩
  rintro earlier later rfl
  obtain ⟨hearlier, hlater⟩ := (Chronicle.fit_append _ earlier later).1 hfit
  obtain ⟨births₁, cs₁, w₁, houtcome₁, h₁, -⟩ := hopening.run hearlier
  obtain ⟨births₂, cs₂, w₂, houtcome₂, -, hfrom⟩ := h₁.run hlater
  rw [Deed.outcome_performAll_append houtcome₁ later, houtcome₂] at hall
  cases hall
  exact ⟨cs₁, w₁, outcome_live rfl houtcome₁, h₁.reports, houtcome₂, hfrom.lasting⟩

def fiveContexts : List Deed :=
  [.make ⟨true, none, .within 5000000000⟩, .clone 0, .make ⟨false, some (World.identifier 7), .never⟩,
    .cancel 1,
    .make ⟨true, none, .within 0⟩, .advance 4000000000, .cancelServer, .make ⟨true, none, .upTo 0⟩]

theorem reports_from_history_of_five :
    (∀ n ∈ (World.start ()).cancelled, n < (World.start ()).tokens) ∧
    (opening (World.start ())).Fit fiveContexts ∧
    ∃ server cs w', (Deed.live fiveContexts).outcome (World.start ()) = (.ok (server, cs), w') ∧
      (cs.map fun ctx ↦ (w'.isCancelled ctx.token, ctx.isExpiredAt w'.clock)) =
        [(true, false), (true, false), (false, false), (true, true), (true, true)] ∧
      ∀ earlier later, fiveContexts = earlier ++ later → ∃ cs₁ w₁,
        (Deed.live earlier).outcome (World.start ()) = (.ok (server, cs₁), w₁) ∧
        Reports (opening (World.start ())) earlier server cs₁ w₁ ∧
        (Deed.performAll server later cs₁).outcome w₁ = (.ok cs, w') ∧ Lasting cs₁ w₁ cs w' := by
  have hissued (n : Nat) (hn : n ∈ (World.start ()).cancelled) : n < (World.start ()).tokens :=
    absurd hn List.not_mem_nil
  have hlong : ((World.start ()).clock + 5000000000) / 1000000000 ≤ RequestContext.lastSecond := by
    decide
  have hshort : (World.start ()).clock / 1000000000 ≤ RequestContext.lastSecond := by decide
  have hfit : (opening (World.start ())).Fit fiveContexts :=
    ⟨hlong, trivial, trivial, trivial, hshort, trivial, trivial, trivial, trivial⟩
  have hseen : (match (Deed.live fiveContexts).outcome (World.start ()) with
      | (.ok (_, cs), w') => cs.map fun ctx ↦ (w'.isCancelled ctx.token, ctx.isExpiredAt w'.clock)
      | (.error _, _) => []) =
      [(true, false), (true, false), (false, false), (true, true), (true, true)] := by decide +kernel
  obtain ⟨server, cs, w', hlive, hmoments⟩ :=
    reports_from_history (World.start ()) fiveContexts hissued hfit
  rw [hlive] at hseen
  exact ⟨hissued, hfit, server, cs, w', hlive, hseen, hmoments⟩

end Contexts

end FrontDoor
