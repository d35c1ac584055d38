import FrontDoor.Proofs.Assembly.Answering

namespace FrontDoor

variable {υ α : Type} {view : World υ → α} {w w₁ w₂ : World υ}

/-- The hook succeeds, and what is viewed of the world stays as it was. -/
def Hook.Succeeds (view : World υ → α) (h : Hook υ) : Prop :=
  ∀ ctx payload w, ∃ w₁, (h.call ctx payload).outcome w = (.ok (.ok ()), w₁) ∧ view w₁ = view w

theorem HooksRun.exists_passed {due : List (PlacedHook υ)} (hdue : ∀ x ∈ due, x.hook.Succeeds view)
    (ctx : RequestContext) (payload : Payload) (w : World υ) :
    ∃ w₁, HooksRun ctx payload due w .passed w₁ ∧ view w₁ = view w := by
  induction due generalizing w with
  | nil => exact ⟨w, .passed (.nil w), rfl⟩
  | cons x due ih =>
    obtain ⟨w₁, hx, hview⟩ := hdue x List.mem_cons_self ctx payload w
    obtain ⟨w₂, hrest, hrestView⟩ := ih (fun a ha ↦ hdue a (List.mem_cons_of_mem x ha)) w₁
    exact ⟨w₂, hrest.cons hx, hrestView.trans hview⟩

def HookRegistry.Lenient (view : World υ → α) (r : HookRegistry υ) : Prop :=
  ∀ p, ∀ x ∈ r.placed p, x.hook.Succeeds view ∨ ∀ path method, x.hook.accepts path method = false

theorem HookRegistry.Lenient.due {r : HookRegistry υ} (h : r.Lenient view) {p : Phase}
    {path method : String} :
    ∀ x ∈ r.due p path method, x.hook.Succeeds view := by
  intro x hx
  obtain ⟨hplaced, haccepts⟩ := List.mem_filter.1 hx
  rcases h p x hplaced with hsucceeds | hidle
  · exact hsucceeds
  · rw [hidle] at haccepts
    cases haccepts

namespace Http

/-- The service behind a layer answers in its place, once it gets the request in this form and in
this world. -/
def Forwards (f : Layer υ) (req : Request) (w : World υ) (forwarded : Request) (w₁ : World υ) : Prop :=
  ∀ next, ((f next req).outcome w).1 = ((next forwarded).outcome w₁).1

theorem Forwards.unique {f : Layer υ} {req forwarded forwarded' : Request}
    (h : Forwards f req w forwarded w₁) (h' : Forwards f req w forwarded' w₂) :
    forwarded' = forwarded ∧ w₂ = w₁ := by
  classical
  let tell : Service υ := fun r v ↦ (.ok (.empty (if r = forwarded ∧ v = w₁ then 200 else 404)), v)
  have htell : ((tell forwarded).outcome w₁).1 = ((tell forwarded').outcome w₂).1 :=
    (h tell).symm.trans (h' tell)
  simpa [tell, Effect.outcome, Response.empty] using htell

/-- A service that does not look at the context, and at no more of the world than what is viewed. -/
structure Service.Blind (view : World υ → α) (service : Service υ) : Prop where
  context : ∀ req ctx, service { req with context := ctx } = service req
  world : ∀ req w w₁, view w = view w₁ → ((service req).outcome w).1 = ((service req).outcome w₁).1

section

variable {registry : HookRegistry υ} {seconds : Nat} {req forwarded : Request}

theorem forwards_of_no_hooks (hnone : ∀ p, registry.hasHooks p = false) (req : Request) (w : World υ) :
    Forwards (hookLayer registry seconds) req w req w := by
  intro next
  rw [hookLayer_eq_of_no_hooks hnone]

theorem exists_forwards_of_hasHooks {p : Phase} (hp : registry.hasHooks p = true)
    (hview : ∀ v : World υ, view (opened v) = view v) (hlenient : registry.Lenient view)
    (req : Request)
    (hfits : TimeoutFits w seconds) : ∃ w₁, view w₁ = view w ∧
      Forwards (hookLayer registry seconds) req w
        { req with context := some (contextAt w req seconds) } w₁ := by
  let ctx := contextAt w req seconds
  obtain ⟨w₁, hbefore, hkept⟩ := HooksRun.exists_passed hlenient.due ctx
    (payloadAt (opened w) (hookEntries ctx req)) (opened w)
  refine ⟨w₁, hkept.trans (hview w), fun next ↦ ?_⟩
  rcases hnext : (next { req with context := some ctx }).outcome w₁ with ⟨reason | response, w₂⟩
  · rw [outcome_hookLayer hfits (.hooked hp (.abortedService hbefore hnext))]
  · obtain ⟨w₃, hafter, -⟩ := HooksRun.exists_passed hlenient.due ctx
      (payloadAt w₂ (statusEntries ctx req response)) w₂
    rw [outcome_hookLayer hfits (.hooked hp (.served hbefore hnext hafter))]

def received (registry : HookRegistry υ) (req : Request) (ctx : RequestContext) : Request :=
  if registry.hasHooks .before || registry.hasHooks .after then { req with context := some ctx }
    else req

theorem exists_forwards (hview : ∀ v : World υ, view (opened v) = view v)
    (hlenient : registry.Lenient view) (req : Request) (hfits : TimeoutFits w seconds) :
    ∃ w₁, view w₁ = view w ∧
      Forwards (hookLayer registry seconds) req w
        (received registry req (contextAt w req seconds)) w₁ := by
  rw [received]
  split
  · rename_i hany
    have hhas : ∃ p, registry.hasHooks p = true := by
      rcases Bool.or_eq_true_iff.1 hany with hp | hp
      · exact ⟨_, hp⟩
      · exact ⟨_, hp⟩
    obtain ⟨p, hp⟩ := hhas
    exact exists_forwards_of_hasHooks hp hview hlenient req hfits
  · rename_i hnone
    have hno : ∀ p, registry.hasHooks p = false := by
      intro p
      cases p <;> simp_all
    exact ⟨w, rfl, forwards_of_no_hooks hno req w⟩

theorem Service.Blind.outcome_hookLayer {next : Service υ} (h : next.Blind view)
    (hview : ∀ v : World υ, view (opened v) = view v) (hlenient : registry.Lenient view)
    (req : Request)
    (hfits : TimeoutFits w seconds) :
    ((hookLayer registry seconds next req).outcome w).1 = ((next req).outcome w).1 := by
  obtain ⟨w₁, hkept, hforwards⟩ := exists_forwards hview hlenient req hfits
  have hreceived : next (received registry req (contextAt w req seconds)) = next req := by
    rw [received]
    split
    · exact h.context req (some (contextAt w req seconds))
    · rfl
  rw [hforwards next, hreceived]
  exact h.world req w₁ w hkept

end

/-- Let the timeout of a request fit. Then there is one context, with the identifier that the
request names and the deadline, such that behind hooks that succeed or match nothing a service gets
the request with this context, and behind no hooks at all the request as it came. A service that
looks neither at the context nor at what such hooks change gives the same answer behind all of these
registries. -/
theorem hookLayer_forwards (hview : ∀ v : World υ, view (opened v) = view v) {seconds : Nat}
    (req : Request) (hfits : TimeoutFits w seconds) :
    ∃ ctx : RequestContext, (∀ id, requestId? req = some id → ctx.requestId = id) ∧
      ctx.deadline = (if seconds = 0 then none else some (w.clock + seconds * 1000000000)) ∧
      (∀ registry : HookRegistry υ, registry.Lenient view → ∃ w₁, view w₁ = view w ∧
        ∀ forwarded v, Forwards (hookLayer registry seconds) req w forwarded v ↔
          forwarded = received registry req ctx ∧ v = w₁) ∧
      ∀ next : Service υ, next.Blind view → ∀ registry other : HookRegistry υ, registry.Lenient view →
        other.Lenient view → ((hookLayer registry seconds next req).outcome w).1 =
          ((hookLayer other seconds next req).outcome w).1 := by
  refine ⟨contextAt w req seconds, fun id hid ↦ ?_, rfl, fun registry hlenient ↦ ?_,
    fun next hblind registry other h h' ↦ ?_⟩
  · rw [contextAt, hid, Option.getD_some]
  · obtain ⟨w₁, hkept, hforwards⟩ := exists_forwards hview hlenient req hfits
    refine ⟨w₁, hkept, fun forwarded v ↦ ⟨hforwards.unique, ?_⟩⟩
    rintro ⟨rfl, rfl⟩
    exact hforwards
  · rw [hblind.outcome_hookLayer hview h req hfits, hblind.outcome_hookLayer hview h' req hfits]

def named : Request where
  method := "GET"
  path := "/"
  headers := [("x-request-id", "6ba7b810-9dad-11d1-80b4-00c04fd430c8")]

def easy : HookRegistry Unit :=
  HookRegistry.empty.register "easy"
    (some ⟨[nod], [⟨.custom fun _ _ ↦ false, fun _ _ ↦ return .error (.other "no" [])⟩]⟩)

theorem lenient_easy : easy.Lenient World.clock := by
  intro p x hx
  cases p with
  | before =>
    rw [List.mem_singleton.1 hx]
    exact .inl fun _ _ w ↦ ⟨w, rfl, rfl⟩
  | after =>
    rw [List.mem_singleton.1 hx]
    exact .inr fun _ _ ↦ rfl

def timekeeper : Service Unit :=
  fun req ↦ do return .text 200 (req.path ++ " " ++ toString (← Effect.now))

theorem blind_timekeeper : timekeeper.Blind World.clock where
  context _ _ := rfl
  world req w w₁ h := by
    change Except.ok (Response.text 200 (req.path ++ " " ++ toString w.clock)) = _
    rw [h]
    rfl

theorem hookLayer_forwards_easy :
    let bare : HookRegistry Unit := .empty
    TimeoutFits (World.start ()) 30 ∧ easy.Lenient World.clock ∧ bare.Lenient World.clock ∧
      timekeeper.Blind World.clock ∧
      (∃ ctx : RequestContext, requestId? named = some ctx.requestId ∧
        ctx.deadline = some (3630 * 1000000000) ∧
        (∃ w₁, Forwards (hookLayer easy 30) named (World.start ())
          { named with context := some ctx } w₁) ∧
        ∃ w₁, Forwards (hookLayer bare 30) named (World.start ()) named w₁) ∧
      ((hookLayer easy 30 timekeeper named).outcome (World.start ())).1 =
        .ok (.text 200 "/ 3600000000000") ∧
      ((hookLayer bare 30 timekeeper named).outcome (World.start ())).1 =
        .ok (.text 200 "/ 3600000000000") := by
  intro bare
  have hfits : TimeoutFits (World.start ()) 30 := timeoutFits_iff.2 (.inr (by decide))
  have hview (v : World Unit) : (opened v).clock = v.clock := rfl
  have hbare : bare.Lenient World.clock := by
    intro p x hx
    cases p <;> cases hx
  obtain ⟨ctx, hid, hdeadline, hforwards, hsame⟩ := hookLayer_forwards hview named hfits
  obtain ⟨w₁, -, heasy⟩ := hforwards easy lenient_easy
  obtain ⟨w₂, -, hnone⟩ := hforwards bare hbare
  have hsome : (requestId? named).isSome = true := by decide +kernel
  obtain ⟨id, hnamed⟩ := Option.isSome_iff_exists.1 hsome
  have hanswer : ((hookLayer bare 30 timekeeper named).outcome (World.start ())).1 =
      .ok (.text 200 "/ 3600000000000") := by
    decide +kernel
  refine ⟨hfits, lenient_easy, hbare, blind_timekeeper, ⟨ctx, ?_, hdeadline, ?_, ?_⟩, ?_, hanswer⟩
  · rw [hid id hnamed, hnamed]
  · exact ⟨w₁, (heasy _ _).2 ⟨rfl, rfl⟩⟩
  · exact ⟨w₂, (hnone _ _).2 ⟨rfl, rfl⟩⟩
  · exact (hsame timekeeper blind_timekeeper easy bare lenient_easy hbare).trans hanswer

def echo : Service Unit := fun req ↦
  return .text 200 ((req.context.map fun ctx ↦ toString ctx.requestId).getD "unknown")

theorem context_missing_without_hooks :
    let none : HookRegistry Unit := .empty
    TimeoutFits (World.start ()) 30 ∧ easy.Lenient World.clock ∧ (∀ p, none.hasHooks p = false) ∧
      ((hookLayer easy 30 echo named).outcome (World.start ())).1 =
        .ok (.text 200 "6ba7b810-9dad-11d1-80b4-00c04fd430c8") ∧
      ((hookLayer none 30 echo named).outcome (World.start ())).1 = .ok (.text 200 "unknown") := by
  intro none
  refine ⟨timeoutFits_iff.2 (.inr (by decide)), lenient_easy, fun p ↦ ?_, ?_, ?_⟩
  · cases p <;> rfl
  · decide +kernel
  · rfl

end Http

end FrontDoor
