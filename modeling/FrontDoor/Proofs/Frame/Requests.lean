import FrontDoor.Proofs.Frame.Plugins

namespace FrontDoor

variable {υ α : Type} {c : Cell υ α} {w w₁ w₂ w₃ : World υ}

def World.later (w : World υ) (nanos : Nat) : World υ := { w with clock := w.clock + nanos }

/-- The steps of a run can be labelled if those of every world that the run may come to can. -/
theorem Runs.exists_labelled {κ ι : Type} {step : κ → World υ → World υ → Prop}
    {labelled : κ × ι → World υ → World υ → Prop} {I : World υ → Prop}
    (hstep : ∀ k v v', I v → step k v v' → ∃ i, labelled (k, i) v v' ∧ I v') {ks : List κ}
    (h : Runs step ks w w₁)
    (hw : I w) : ∃ ls : List (κ × ι), ls.map (·.1) = ks ∧ Runs labelled ls w w₁ := by
  induction h with
  | nil => exact ⟨[], rfl, .nil _⟩
  | @cons k ks _ _ _ hs _ ih =>
    obtain ⟨i, hi, hnext⟩ := hstep _ _ _ hw hs
    obtain ⟨ls, rfl, hls⟩ := ih hnext
    exact ⟨(k, i) :: ls, rfl, .cons hi hls⟩

theorem Effect.outcome_map {β γ : Type} (f : β → γ) (x : Effect υ β) (w : World υ) :
    (do return f (← x) : Effect υ γ).outcome w = ((x.outcome w).1.map f, (x.outcome w).2) := by
  rw [outcome_bind]
  rcases x.outcome w with ⟨e | b, w₁⟩ <;> rfl

namespace RequestContext

theorem outcome_withTimeout_of_overflow {nanos : Nat} (h : lastSecond < (w.clock + nanos) / 1000000000)
    (ctx : RequestContext) : (ctx.withTimeout nanos).outcome w = (.error .deadlineOverflow, w) := by
  rw [withTimeout, Effect.outcome_bind_of_ok (Effect.outcome_now w), if_pos h]
  rfl

end RequestContext

def HookOutcome.answer (response : Http.Response) : HookOutcome υ → Except Abort Http.Response
  | .passed => .ok response
  | .failed x fault => .ok (Http.failureResponse .after x fault)
  | .aborted reason => .error reason

namespace Http

variable {registry : HookRegistry υ} {seconds : Nat} {req forwarded : Request} {next : Service υ}
  {p : Phase} {response : Response} {reason : Abort} {o : HookOutcome υ}

theorem outcome_contextFor_of_not_fits (h : ¬ TimeoutFits w seconds) :
    (contextFor req ⟨[w.tokens]⟩ seconds).outcome { w with tokens := w.tokens + 1 } =
      (.error .deadlineOverflow, opened w) := by
  obtain ⟨hzero, hlast⟩ := not_or.1 h
  have hover : RequestContext.lastSecond < ((opened w).clock + seconds * 1000000000) / 1000000000 :=
    Nat.not_le.1 hlast
  rw [contextFor, Effect.outcome_bind_of_ok (RequestContext.outcome_new _)]
  cases hid : requestId? req with
  | none =>
    simp only [hzero, if_false]
    exact RequestContext.outcome_withTimeout_of_overflow hover _
  | some id =>
    simp only [hzero, if_false]
    exact RequestContext.outcome_withTimeout_of_overflow hover _

theorem PhaseRun.deterministic {ctx : RequestContext} {entries : List (String × Json)}
    {o' : HookOutcome υ} (h : PhaseRun registry ctx req p entries w o w₁)
    (h' : PhaseRun registry ctx req p entries w o' w₂) :
    o.result p = o'.result p ∧ w₁ = w₂ := by
  have heq := (HookRegistry.outcome_callAll p _ _ h).symm.trans (HookRegistry.outcome_callAll p _ _ h')
  exact Prod.mk.inj heq

/-- The hook layer hands a request on: the service behind it gets the request in this form and finds
this world. -/
inductive Admits (registry : HookRegistry υ) (seconds : Nat) (req : Request) (w : World υ) :
    Request → World υ → Prop
  | untouched : (∀ p, registry.hasHooks p = false) → Admits registry seconds req w req w
  | hooked {p : Phase} {w₁ : World υ} :
      registry.hasHooks p = true → TimeoutFits w seconds →
      PhaseRun registry (contextAt w req seconds) req .before
        (hookEntries (contextAt w req seconds) req) (opened w) .passed w₁ →
      Admits registry seconds req w { req with context := some (contextAt w req seconds) } w₁

theorem Admits.deterministic {forwarded' : Request} (h : Admits registry seconds req w forwarded w₁)
    (h' : Admits registry seconds req w forwarded' w₂) : forwarded = forwarded' ∧ w₁ = w₂ := by
  cases h with
  | untouched hnone =>
    cases h' with
    | untouched => exact ⟨rfl, rfl⟩
    | hooked hp =>
      rw [hnone] at hp
      cases hp
  | hooked hp _ hrun =>
    cases h' with
    | untouched hnone =>
      rw [hnone] at hp
      cases hp
    | hooked _ _ hrun' => exact ⟨rfl, (hrun.deterministic hrun').2⟩

theorem mem_placed_of_mem_due {x : PlacedHook υ} (hx : x ∈ registry.due p req.path req.method) :
    x ∈ registry.placed p :=
  (List.mem_filter.1 hx).1

theorem kept_of_admits (h : Admits registry seconds req w forwarded w₁)
    (hbefore : ∀ x ∈ registry.placed .before, x.hook.Keeps c) : c.Kept w w₁ := by
  cases h with
  | untouched => exact .refl w
  | hooked _ _ hrun =>
    have hkept : c.Kept (opened w) w₁ :=
      kept_of_hooksRun hrun fun x hx ↦ hbefore x (mem_placed_of_mem_due hx)
    exact hkept

theorem hookLayer_eq_of_no_hooks (hnone : ∀ p, registry.hasHooks p = false) (next : Service υ) :
    hookLayer registry seconds next req = next req := by
  rw [hookLayer, hnone, hnone]
  rfl

theorem hookLayer_eq_of_hasHooks (hp : registry.hasHooks p = true) (next : Service υ) :
    hookLayer registry seconds next req = (do
      let token ← Effect.newToken
      Effect.cancelling token do
        runAround registry (← contextFor req token seconds) next req) := by
  have hany : (!registry.hasHooks .before && !registry.hasHooks .after) = false := by
    cases p <;> simp [hp]
  rw [hookLayer, hany, if_neg Bool.false_ne_true]

theorem outcome_hookLayer_of_hasHooks (hp : registry.hasHooks p = true)
    (hfits : TimeoutFits w seconds) :
    (hookLayer registry seconds next req).outcome w =
      (((runAround registry (contextAt w req seconds) next req).outcome (opened w)).1,
        ((runAround registry (contextAt w req seconds) next req).outcome (opened w)).2.cancel
          ⟨[w.tokens]⟩) := by
  rw [hookLayer_eq_of_hasHooks hp, Effect.outcome_bind_of_ok (Effect.outcome_newToken w),
    Effect.outcome_cancelling, Effect.outcome_bind_of_ok (outcome_contextFor req hfits)]

theorem outcome_hookLayer_of_not_fits (hp : registry.hasHooks p = true)
    (hfits : ¬ TimeoutFits w seconds) (next : Service υ) (req : Request) :
    (hookLayer registry seconds next req).outcome w =
      (.error .deadlineOverflow, (opened w).cancel ⟨[w.tokens]⟩) := by
  rw [hookLayer_eq_of_hasHooks hp, Effect.outcome_bind_of_ok (Effect.outcome_newToken w),
    Effect.outcome_cancelling, Effect.outcome_bind_of_error (outcome_contextFor_of_not_fits hfits)]

theorem exists_outcome_of_not_admits (h : ¬ ∃ forwarded w₁, Admits registry seconds req w forwarded w₁)
    (hbefore : ∀ x ∈ registry.placed .before, x.hook.Keeps c) :
    ∃ result w', (∀ next, (hookLayer registry seconds next req).outcome w = (result, w')) ∧
      c.Kept w w' := by
  by_cases hany : ∃ p, registry.hasHooks p = true
  · obtain ⟨p, hp⟩ := hany
    by_cases hfits : TimeoutFits w seconds
    · obtain ⟨o, w₁, hrun⟩ := HooksRun.total (contextAt w req seconds)
        (payloadAt (opened w) (hookEntries (contextAt w req seconds) req))
        (registry.due .before req.path req.method) (opened w)
      have hkept : c.Kept (opened w) w₁ :=
        kept_of_hooksRun hrun fun x hx ↦ hbefore x (mem_placed_of_mem_due hx)
      cases o with
      | passed => exact absurd ⟨_, w₁, .hooked hp hfits hrun⟩ h
      | failed x fault =>
        have hpassage (next : Service υ) : Passage registry next req seconds w _ _ :=
          .hooked hp (.rejected hrun)
        refine ⟨_, _, fun next ↦ outcome_hookLayer hfits (hpassage next), ?_⟩
        exact hkept.trans ((c.kept_logged _ _).trans (c.kept_cancel _ _))
      | aborted reason =>
        have hpassage (next : Service υ) : Passage registry next req seconds w _ _ :=
          .hooked hp (.abortedBefore hrun)
        exact ⟨_, _, fun next ↦ outcome_hookLayer hfits (hpassage next),
          hkept.trans (c.kept_cancel _ _)⟩
    · exact ⟨_, _, fun next ↦ outcome_hookLayer_of_not_fits hp hfits next req,
        c.kept_cancel (opened w) _⟩
  · exact absurd ⟨req, w, .untouched fun p ↦ Bool.eq_false_iff.2 fun hp ↦ hany ⟨p, hp⟩⟩ h

theorem exists_outcome_of_answer (h : Admits registry seconds req w forwarded w₁)
    (hnext : (next forwarded).outcome w₁ = (.ok response, w₂))
    (hafter : PhaseRun registry (contextAt w req seconds) req .after
      (statusEntries (contextAt w req seconds) req response) w₂ o w₃) :
    ∃ w', (hookLayer registry seconds next req).outcome w = (o.answer response, w') ∧
      w'.store = w₃.store := by
  have hcancel (v : World υ) : (v.cancel (contextAt w req seconds).token).store = v.store := rfl
  cases h with
  | untouched hnone =>
    obtain ⟨rfl, rfl⟩ := hafter.eq_passed (hnone _)
    refine ⟨w₃, ?_, rfl⟩
    rw [hookLayer_eq_of_no_hooks hnone]
    exact hnext
  | hooked hp hfits hrun =>
    cases o with
    | passed => exact ⟨_, outcome_hookLayer hfits (.hooked hp (.served hrun hnext hafter)), hcancel _⟩
    | failed x fault =>
      exact ⟨_, outcome_hookLayer hfits (.hooked hp (.replaced hrun hnext hafter)), hcancel _⟩
    | aborted reason =>
      exact ⟨_, outcome_hookLayer hfits (.hooked hp (.abortedAfter hrun hnext hafter)), hcancel _⟩

theorem exists_outcome_of_abort (h : Admits registry seconds req w forwarded w₁)
    (hnext : (next forwarded).outcome w₁ = (.error reason, w₂)) :
    ∃ w', (hookLayer registry seconds next req).outcome w = (.error reason, w') ∧
      w'.store = w₂.store := by
  cases h with
  | untouched hnone =>
    refine ⟨w₂, ?_, rfl⟩
    rw [hookLayer_eq_of_no_hooks hnone]
    exact hnext
  | hooked hp hfits hrun =>
    exact ⟨_, outcome_hookLayer hfits (.hooked hp (.abortedService hrun hnext)), rfl⟩

theorem exists_outcome_of_admits (h : Admits registry seconds req w forwarded w₁)
    (hafter : ∀ x ∈ registry.placed .after, x.hook.Keeps c) (next : Service υ) :
    ∃ result w', (hookLayer registry seconds next req).outcome w = (result, w') ∧
      c.Kept ((next forwarded).outcome w₁).2 w' := by
  rcases hnext : (next forwarded).outcome w₁ with ⟨reason | response, w₂⟩
  · obtain ⟨w', houtcome, hstore⟩ := exists_outcome_of_abort h hnext
    exact ⟨_, w', houtcome, congrArg c.read hstore⟩
  · obtain ⟨o, w₃, hrun⟩ := HooksRun.total (contextAt w req seconds)
      (payloadAt w₂ (statusEntries (contextAt w req seconds) req response))
      (registry.due .after req.path req.method) w₂
    obtain ⟨w', houtcome, hstore⟩ := exists_outcome_of_answer h hnext hrun
    have hkept : c.Kept w₂ w₃ := kept_of_hooksRun hrun fun x hx ↦ hafter x (mem_placed_of_mem_due hx)
    exact ⟨_, w', houtcome, (congrArg c.read hstore).trans hkept⟩

structure Arrival where
  idle : Nat
  request : Request

def Handled (router : Router υ) (a : Arrival) (w w' : World υ) : Prop :=
  ((router.handle a.request).outcome (w.later a.idle)).2 = w'

def layerIn (mw : Middleware (host υ)) : Layer υ :=
  fun next ↦ (applied mw { routes := [], fallback := next }).fallback

theorem layerIn_eq {mw : Middleware (host υ)} {f : Layer υ} (h : ∀ r, applied mw r = r.layer f) :
    layerIn mw = f := by
  funext next
  rw [layerIn, h]
  rfl

theorem around_congr {f g : Middleware (host υ) → Layer υ} {ms : List (Middleware (host υ))}
    (h : ∀ mw ∈ ms, f mw = g mw) : around f ms = around g ms := by
  funext next
  exact List.foldr_ext f g next fun mw hmw service ↦ congrFun (h mw hmw) service

theorem around_append (f : Middleware (host υ) → Layer υ) (xs ys : List (Middleware (host υ)))
    (next : Service υ) :
    around f (xs ++ ys) next = around f xs (around f ys next) :=
  List.foldr_append

theorem MethodTable.status_finish (t : MethodTable υ) (served : Bool) (method : String)
    (r : Response) :
    (t.finish served method r).status = r.status := by
  have hadd (r : Response) (name value : String) : (r.addHeader name value).status = r.status := by
    rw [Response.addHeader]
    split <;> rfl
  rw [finish]
  split
  · rfl
  · split <;> split <;> simp only [hadd]

namespace Router

def serving (r : Router υ) (req : Request) : Service υ :=
  (r.route? req.path).elim r.fallback fun route ↦ route.endpoint.answering req.method

def finishing (r : Router υ) (req : Request) : Response → Response :=
  (r.route? req.path).elim id fun route ↦
    route.endpoint.finish (route.endpoint.serves req.method) req.method

theorem status_finishing (r : Router υ) (req : Request) (response : Response) :
    (r.finishing req response).status = response.status := by
  rw [finishing]
  cases r.route? req.path with
  | none => rfl
  | some route => exact MethodTable.status_finish ..

theorem handle_layer (f : Layer υ) (r : Router υ) (req : Request) :
    (r.layer f).handle req = (do return r.finishing req (← f (r.serving req) req)) := by
  rw [finishing, serving]
  cases hroute : r.route? req.path with
  | none =>
    rw [handle_layer_of_route?_eq_none f hroute]
    exact (bind_pure _).symm
  | some route => exact handle_layer_of_route? f hroute

end Router

/-- Where a request goes: the path whose middleware it meets, and the service behind that. One that
no route matches meets the middleware of the path mounted last. -/
inductive Destination (m : Manager (host υ) υ) (mounted : Mounting υ) (req : Request) :
    Option String → Service υ → Prop
  | routed {path : String} {o : OwnedEndpoint (MethodTable υ)} {route : Route υ} :
      path ∈ mounted.paths → mounted.router.route? req.path = some route →
      Route.Pattern.parse? path = some route.pattern → m.table.get? path = some o →
      Destination m mounted req (some path) (o.endpoint.answering req.method)
  | unrouted : mounted.router.route? req.path = none →
  Destination m mounted req mounted.paths.getLast? notFound

def onWay (middleware : List (Middleware (host υ))) (path? : Option String) :
    List (Middleware (host υ)) :=
  path?.elim [] (covering middleware)

/-- Behind the layer around an assembled router stands the middleware of a request's destination,
and behind that its service. What is done with the answer afterwards does not change its status. -/
theorem exists_destination {m : Manager (host υ) υ} {mounted : Mounting υ}
    {layerOf : Middleware (host υ) → Layer υ} (h : mounted.Standing layerOf m.middleware m.table)
    (layer : Layer υ) (req : Request) :
    ∃ path? service, Destination m mounted req path? service ∧ ∃ finish : Response → Response,
      (∀ r, (finish r).status = r.status) ∧ (mounted.router.layer layer).handle req = (do
        return finish (← layer (around layerOf (onWay m.middleware path?) service) req)) := by
  cases hroute : mounted.router.route? req.path with
  | none =>
    refine ⟨mounted.paths.getLast?, notFound, .unrouted hroute, mounted.router.finishing req,
      mounted.router.status_finishing req, ?_⟩
    rw [Router.handle_layer, Router.serving, hroute, Option.elim_none, h.fallback]
    rfl
  | some route =>
    obtain ⟨path, hpath, hparse, o, ho, hendpoint⟩ := h.exists_path (Router.mem_of_route? hroute).1
    refine ⟨some path, _, .routed hpath hroute hparse ho, mounted.router.finishing req,
      mounted.router.status_finishing req, ?_⟩
    rw [Router.handle_layer, Router.serving, hroute, Option.elim_some, hendpoint,
      MethodTable.answering_layer]
    rfl

end Http

end FrontDoor
