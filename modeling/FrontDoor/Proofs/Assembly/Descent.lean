import FrontDoor.Proofs.Assembly.Mounting

namespace FrontDoor

variable {υ : Type}

namespace Effect

variable {α : Type}

def attempt (body : Effect υ α) : Effect υ (Except Abort α) := fun w ↦
  let (result, w') := body w
  (.ok result, w')

theorem outcome_attempt (body : Effect υ α) (w : World υ) :
    (attempt body).outcome w = (.ok (body.outcome w).1, (body.outcome w).2) := rfl

end Effect

namespace Http

/-- What middleware decides about a request: it answers itself, or passes a request on and makes its
answer of what comes back. -/
inductive Verdict (υ : Type) where
  | answer (response : Response)
  | pass (forwarded : Request) (back : Except Abort Response → Effect υ Response)

abbrev Interceptor (υ : Type) := Request → Effect υ (Verdict υ)

/-- The layer of an interceptor, which calls the service behind it once or not at all. -/
def Interceptor.layer (i : Interceptor υ) : Layer υ := fun next req ↦ do
  match ← i req with
  | .answer response => return response
  | .pass forwarded back => back (← (next forwarded).attempt)

section

variable (of : Middleware (host υ) → Interceptor υ) (service : Service υ)

/-- A request goes down through middleware towards a service. Each that passes a request on is
followed by the next one, the last by the service; one that does not is the last that is entered. -/
inductive Descent :
    List (Middleware (host υ)) → Request → World υ → List (Middleware (host υ)) → Bool →
    Except Abort Response → World υ → Prop
  | arrived {req : Request} {w w' : World υ} {result : Except Abort Response} :
      (service req).outcome w = (result, w') → Descent [] req w [] true result w'
  | answered {mw : Middleware (host υ)} {ms : List (Middleware (host υ))} {req : Request}
    {w w' : World υ}
      {response : Response} :
      (of mw req).outcome w = (.ok (.answer response), w') →
      Descent (mw :: ms) req w [mw] false (.ok response) w'
  | aborted {mw : Middleware (host υ)} {ms : List (Middleware (host υ))} {req : Request}
    {w w' : World υ}
      {reason : Abort} :
      (of mw req).outcome w = (.error reason, w') →
      Descent (mw :: ms) req w [mw] false (.error reason) w'
  | passed {mw : Middleware (host υ)} {ms entered : List (Middleware (host υ))}
    {req forwarded : Request}
      {w w₁ w₂ w₃ : World υ} {back : Except Abort Response → Effect υ Response} {reached : Bool}
      {behind result : Except Abort Response} :
      (of mw req).outcome w = (.ok (.pass forwarded back), w₁) →
      Descent ms forwarded w₁ entered reached behind w₂ → (back behind).outcome w₂ = (result, w₃) →
      Descent (mw :: ms) req w (mw :: entered) reached result w₃

end

variable {of : Middleware (host υ) → Interceptor υ} {service : Service υ}
  {ms entered : List (Middleware (host υ))} {req : Request} {w w' : World υ}
  {result : Except Abort Response}

theorem Descent.total (of : Middleware (host υ) → Interceptor υ) (service : Service υ)
    (ms : List (Middleware (host υ))) (req : Request) (w : World υ) :
    ∃ entered reached result w', Descent of service ms req w entered reached result w' := by
  induction ms generalizing req w with
  | nil => exact ⟨[], true, _, _, .arrived rfl⟩
  | cons mw ms ih =>
    rcases hmw : (of mw req).outcome w with ⟨reason | response | ⟨forwarded, back⟩, w₁⟩
    · exact ⟨_, _, _, _, .aborted hmw⟩
    · exact ⟨_, _, _, _, .answered hmw⟩
    · obtain ⟨entered, reached, behind, w₂, h⟩ := ih forwarded w₁
      exact ⟨_, _, _, _, .passed hmw h rfl⟩

theorem Descent.outcome_around {reached : Bool}
    (h : Descent of service ms req w entered reached result w') :
    (around (fun mw ↦ (of mw).layer) ms service req).outcome w = (result, w') := by
  induction h with
  | arrived h => exact h
  | answered h => exact Effect.outcome_bind_of_ok h _
  | aborted h => exact Effect.outcome_bind_of_error h _
  | @passed _ ms _ _ forwarded _ w₁ w₂ _ _ _ behind _ h _ hback ih =>
    have hattempt : Effect.outcome (around (fun mw ↦ (of mw).layer) ms service forwarded).attempt w₁ =
        (.ok behind, w₂) := by
      rw [Effect.outcome_attempt, ih]
    exact (Effect.outcome_bind_of_ok h _).trans ((Effect.outcome_bind_of_ok hattempt _).trans hback)

def LeadsTo (of : Middleware (host υ) → Interceptor υ) (ms : List (Middleware (host υ)))
    (service inner : Service υ) :
    Prop :=
  ∀ req w w' result, (inner req).outcome w = (result, w') ↔
    ∃ entered reached, Descent of service ms req w entered reached result w'

theorem leadsTo_around (of : Middleware (host υ) → Interceptor υ) (ms : List (Middleware (host υ)))
    (service : Service υ) : LeadsTo of ms service (around (fun mw ↦ (of mw).layer) ms service) := by
  intro req w w' result
  constructor
  · intro h
    obtain ⟨entered, reached, result₁, w₁, hdescent⟩ := Descent.total of service ms req w
    cases hdescent.outcome_around.symm.trans h
    exact ⟨entered, reached, hdescent⟩
  · rintro ⟨entered, reached, h⟩
    exact h.outcome_around

/-- How an assembled router handles requests. Requests for a mounted path go through the hook layer
and down through the middleware that covers the path to its endpoint. All other requests go through
the hook layer as well, and then through the middleware that covers the path mounted last. -/
structure Handles (m : Manager (host υ) υ) (of : Middleware (host υ) → Interceptor υ) (layer : Layer υ)
    (mounted : Mounting υ) (router : Router υ) : Prop where
  routed : ∀ path ∈ mounted.paths, ∃ o π, m.table.get? path = some o ∧
    Route.Pattern.parse? path = some π ∧
    ∀ (req : Request) (route : Route υ), router.route? req.path = some route → route.pattern = π →
      ∃ inner, LeadsTo of (covering m.middleware path) (o.endpoint.answering req.method) inner ∧
        router.handle req = (do
          return o.endpoint.finish (o.endpoint.serves req.method) req.method (← layer inner req))
  exists_path : ∀ (req : Request) (route : Route υ), router.route? req.path = some route →
    route.pattern.covers req.path.toList = true ∧
      ∃ path ∈ mounted.paths, Route.Pattern.parse? path = some route.pattern
  unrouted : ∀ req : Request,
    (∀ path ∈ mounted.paths, ∀ π, Route.Pattern.parse? path = some π →
      π.covers req.path.toList = false) →
    ∃ inner, LeadsTo of (mounted.lastCovering m.middleware) notFound inner ∧
      router.handle req = layer inner req

theorem exists_of_route?_layer {f : Layer υ} {r : Router υ} {path : String} {route : Route υ}
    (h : (r.layer f).route? path = some route) :
    ∃ inside, r.route? path = some inside ∧ inside.pattern = route.pattern := by
  rw [Router.route?_layer, Option.map_eq_some_iff] at h
  obtain ⟨inside, hinside, rfl⟩ := h
  exact ⟨inside, hinside, rfl⟩

theorem handles_of_standing {m : Manager (host υ) υ} {mounted : Mounting υ}
    (h : mounted.Standing (fun mw ↦ (of mw).layer) m.middleware m.table) (layer : Layer υ) :
    Handles m of layer mounted (mounted.router.layer layer) where
  routed path hpath := by
    obtain ⟨own, hown, hparse, o, ho, -⟩ := h.exists_route hpath
    refine ⟨o, own.pattern, ho, hparse, fun req route hroute hπ ↦ ?_⟩
    obtain ⟨inside, hinside, hpattern⟩ := exists_of_route?_layer hroute
    have hmem := (Router.mem_of_route? hinside).1
    obtain ⟨-, o', ho', hendpoint⟩ := h.routeOf hpath hmem (by rw [hparse, hpattern, hπ])
    obtain rfl : o = o' := Option.some.inj (ho.symm.trans ho')
    have hmethods := o.endpoint.isSome_service?_layer
        (around (fun mw ↦ (of mw).layer) (covering m.middleware path))
    refine ⟨_, leadsTo_around of (covering m.middleware path) (o.endpoint.answering req.method), ?_⟩
    rw [Router.handle_layer_of_route? layer hinside, hendpoint, MethodTable.finish_congr hmethods,
      MethodTable.serves_congr hmethods, MethodTable.answering_layer]
  exists_path req route hroute := by
    obtain ⟨inside, hinside, hpattern⟩ := exists_of_route?_layer hroute
    obtain ⟨hmem, hcovers⟩ := Router.mem_of_route? hinside
    obtain ⟨path, hpath, hrouteOf⟩ := h.exists_path hmem
    rw [← hpattern]
    exact ⟨hcovers, path, hpath, hrouteOf.pattern⟩
  unrouted req hreq := by
    have hnone : mounted.router.route? req.path = none := by
      refine Router.route?_eq_none_iff.2 fun route hroute ↦ ?_
      obtain ⟨path, hpath, hrouteOf⟩ := h.exists_path hroute
      exact hreq path hpath route.pattern hrouteOf.pattern
    refine ⟨_, leadsTo_around of (mounted.lastCovering m.middleware) notFound, ?_⟩
    rw [Router.handle_layer_of_route?_eq_none layer hnone, h.fallback]

/-- Let a fresh manager's initialization succeed, and let its middleware be interceptors. Its
middleware stands in ascending order of priority, equal priorities in the order of plugins and
declarations. A request for a mounted path that passes the before-hooks enters the middleware whose
scope covers the path, each once and in this order, up to the first that does not pass it on, and
the endpoint if all do. A request for no mounted path enters the middleware that covers the path
mounted last. -/
theorem assemble_descends (ps : PluginList (host υ) υ) (ctx : Config.AppConfig) (w w' : World υ)
    (m : Manager (host υ) υ)
    (hstart : ((Manager.ofPlugins ps).start ctx).outcome w = (.ok (m, .ok ()), w'))
    (of : Middleware (host υ) → Interceptor υ) (hwraps : Wraps (fun mw ↦ (of mw).layer) m.middleware)
    (server : Config.ServerConfig) :
    let layer := hookLayer m.hooks server.requestTimeoutSeconds
    (∃ cs, Manager.Contributed ctx ps w cs ∧ m.Serves cs) ∧
    ∃ mounted router, (mountAll m.middleware m.table.entries {}).Yields mounted ∧
      (assemble m server).Yields router ∧
      Handles m of layer mounted router := by
  intro layer
  refine ⟨Manager.exists_serves_of_start hstart, mounting m, _, Mounting.yields_mountAll _ _ _,
    yields_assemble m server, ?_⟩
  exact handles_of_standing (standing_mounting m hwraps) layer

def stamping (name : String) : Interceptor Unit := fun req ↦ return .pass req fun behind ↦ do
  match behind with
  | .ok response => return { response with headers := response.headers ++ [("via", name)] }
  | .error reason => throw reason

def stamp (scope : String) (priority : Int) : Middleware (host Unit) :=
  ⟨scope, priority, Router.layer (stamping scope).layer⟩

def stamped : PluginList (host Unit) Unit :=
  [AssembledPlugin.toPlugin {
    id := "one"
    endpoints := .ofList [("/tea/pot", .get fun _ ↦ return .text 200 "tea")]
    middleware := [stamp "/" 5, stamp "/admin" 1] },
  AssembledPlugin.toPlugin {
    id := "two"
    endpoints := .ofList [("/admin", .get fun _ ↦ return .text 200 "admin")]
    middleware := [stamp "/tea" 5, stamp "/tea/pot" (-1)] }]

def stampedManager : Manager (host Unit) Unit where
  plugins := stamped
  table := .ofList [("/tea/pot", ⟨"one", .get fun _ ↦ return .text 200 "tea"⟩),
    ("/admin", ⟨"two", .get fun _ ↦ return .text 200 "admin"⟩)]
  middleware := [stamp "/tea/pot" (-1), stamp "/admin" 1, stamp "/" 5, stamp "/tea" 5]
  state := .initialized

theorem start_stamped :
    ∃ w, ((Manager.ofPlugins stamped).start {}).outcome (World.start ()) =
      (.ok (stampedManager, .ok ()), w) := by
  have hadopt : ∃ w,
      (Manager.adoptAll ({} : Config.AppConfig) stamped (Manager.ofPlugins stamped)).outcome
      (World.start ()) = (.ok ({ stampedManager with
        middleware := [stamp "/" 5, stamp "/admin" 1, stamp "/tea" 5, stamp "/tea/pot" (-1)]
        state := .uninitialized }, .ok ()), w) := ⟨_, rfl⟩
  have hsort : Manager.sortByPriority [stamp "/" 5, stamp "/admin" 1, stamp "/tea" 5,
      stamp "/tea/pot" (-1)] = stampedManager.middleware := by
    simp [Manager.sortByPriority, List.mergeSort, List.MergeSort.Internal.splitInTwo, stamp,
      stampedManager]
  obtain ⟨w, hadopt⟩ := hadopt
  exact Manager.exists_outcome_start hadopt hsort

theorem assemble_descends_tie :
    let m := stampedManager
    let of : Middleware (host Unit) → Interceptor Unit := fun mw ↦ stamping mw.scope
    let answer (r : Router Unit) (path : String) :=
      ((r.handle { method := "GET", path }).outcome (World.start ())).1.toOption
    (∃ w, ((Manager.ofPlugins stamped).start {}).outcome (World.start ()) = (.ok (m, .ok ()), w)) ∧
    Wraps (fun mw ↦ (of mw).layer) m.middleware ∧
    (∃ cs, Manager.Contributed ({} : Config.AppConfig) stamped (World.start ()) cs ∧ m.Serves cs) ∧
    ∃ mounted router, (mountAll m.middleware m.table.entries {}).Yields mounted ∧
      (assemble m {}).Yields router ∧
      Handles m of (hookLayer m.hooks 30) mounted router ∧ mounted.paths = ["/admin", "/tea/pot"] ∧
      (covering m.middleware "/tea/pot").map (·.scope) = ["/tea/pot", "/", "/tea"] ∧
      (answer router "/tea/pot").map (·.headers.filter (·.1 = "via")) =
        some [("via", "/tea"), ("via", "/"), ("via", "/tea/pot")] ∧
      (answer router "/admin").map (·.headers.filter (·.1 = "via")) =
        some [("via", "/"), ("via", "/admin")] := by
  intro m of answer
  obtain ⟨w, hstart⟩ := start_stamped
  have hwraps : Wraps (fun mw ↦ (of mw).layer) m.middleware := by
    intro mw hmw r
    simp only [m, stampedManager, List.mem_cons, List.not_mem_nil, or_false] at hmw
    rcases hmw with rfl | rfl | rfl | rfl <;> rfl
  obtain ⟨hserves, mounted, router, hmounted, hrouter, hhandles⟩ :=
    assemble_descends stamped {} (World.start ()) w m hstart of hwraps {}
  obtain rfl := (Mounting.yields_mountAll m.middleware {} m.table.entries).unique hmounted w
  obtain rfl := (yields_assemble m {}).unique hrouter w
  refine ⟨⟨w, hstart⟩, hwraps, hserves, _, _, hmounted, hrouter, hhandles, ?_, ?_, ?_, ?_⟩
  · decide +kernel
  · decide +kernel
  · decide +kernel
  · decide +kernel

theorem wraps_teapot (scope path : String) (hooks : Option (HookBundle Unit)) :
    Wraps (fun _ ↦ Interceptor.layer fun _ ↦ return .answer (.empty 418))
      (teaManager scope path hooks).middleware := by
  intro mw hmw r
  rw [List.mem_singleton.1 hmw]
  rfl

/-- A request that matches no mounted endpoint enters middleware, here one with another scope, which
answers it. -/
theorem unrouted_enters_teapot :
    let m := teaManager "/tea" "/tea/pot" none
    ∃ w router w',
      ((Manager.ofPlugins m.plugins).start {}).outcome (World.start ()) = (.ok (m, .ok ()), w) ∧
      Wraps (fun _ ↦ Interceptor.layer fun _ ↦ return .answer (.empty 418)) m.middleware ∧
      (assemble m {}).outcome w = (.ok router, w') ∧ (router.route? "/nowhere").isNone = true ∧
      m.middleware.all (fun mw ↦ !Route.scopeCovers mw.scope "/nowhere") = true ∧
      ((router.handle { method := "GET", path := "/nowhere" }).outcome (World.start ())).1 =
        .ok (.empty 418) := by
  intro m
  obtain ⟨w, hstart⟩ := start_teaPlugin "/tea" "/tea/pot" none
  obtain ⟨events, hassemble⟩ := yields_assemble m {} w
  refine ⟨w, _, _, hstart, wraps_teapot _ _ _, hassemble, ?_, ?_, ?_⟩
  · decide +kernel
  · decide +kernel
  · decide +kernel

end Http

end FrontDoor
