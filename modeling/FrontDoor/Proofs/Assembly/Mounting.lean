import FrontDoor.Http.Assembly
import FrontDoor.Proofs.Assembly.Handling
import FrontDoor.Proofs.Manager.Start
import Mathlib.Data.List.Nodup

namespace FrontDoor.Http

variable {υ : Type}

def covering (middleware : List (Middleware (host υ))) (path : String) : List (Middleware (host υ)) :=
  middleware.filter fun mw ↦ Route.scopeCovers mw.scope path

def applied (mw : Middleware (host υ)) (r : Router υ) : Router υ := mw.apply r

def wrapped (path : String) (middleware : List (Middleware (host υ))) (r : Router υ) : Router υ :=
  (covering middleware path).foldr applied r

theorem yields_wrap (path : String) (middleware : List (Middleware (host υ))) (r : Router υ) :
    (wrap path middleware r).Yields (wrapped path middleware r) := by
  have hfold (ms : List (Middleware (host υ))) (r : Router υ) :
      (ms.foldlM (fun r m ↦ do
        Effect.log .debug .router "Applying middleware"
          [("path", .text path), ("scope", .text m.scope), ("priority", .int m.priority)]
        return applied m r) r : Effect υ (Router υ)).Yields (ms.reverse.foldr applied r) := by
    rw [List.foldr_reverse]
    induction ms generalizing r with
    | nil => exact Effect.yields_pure r
    | cons mw ms ih =>
      rw [List.foldlM_cons]
      exact Effect.Yields.bind
        (Effect.Yields.bind (Effect.yields_log _ _ _ _) (Effect.yields_pure _)) (ih _)
  have hlast := hfold (middleware.reverse.filter fun mw ↦ Route.scopeCovers mw.scope path) r
  rw [List.filter_reverse, List.reverse_reverse] at hlast
  rw [wrap, List.filter_reverse]
  exact hlast

namespace Mounting

def paths (m : Mounting υ) : List String := m.shapes.map (·.2)

/-- The pattern that a path is to be mounted with; none if it has a problem, its shape is taken, or
it is malformed. -/
def pattern? (m : Mounting υ) (path : String) : Option Route.Pattern :=
  if (Route.problem? path).isSome then none
  else if (m.shapes.find? fun s ↦ s.1 = Route.shape path).isSome then none
  else Route.Pattern.parse? path

def added (m : Mounting υ) (middleware : List (Middleware (host υ))) (path : String)
    (endpoint : MethodTable υ) :
    Mounting υ :=
  match m.pattern? path with
  | none => m
  | some π =>
    match m.router.merge? (wrapped path middleware (.single π endpoint)) with
    | none => m
    | some router => ⟨router, m.shapes ++ [(Route.shape path, path)]⟩

theorem yields_add (m : Mounting υ) (middleware : List (Middleware (host υ))) (owner : Option String)
    (path : String) (endpoint : MethodTable υ) :
    (m.add middleware owner path endpoint).Yields (m.added middleware path endpoint) := by
  have hskip (message : String) (fields : List (String × Json)) :
      (do skip path owner message fields; return m : Effect υ (Mounting υ)).Yields m :=
    Effect.Yields.bind (Effect.yields_log _ _ _ _) (Effect.yields_pure m)
  rw [add, added, pattern?]
  cases Route.problem? path with
  | some problem => exact hskip "Skipping endpoint with invalid path" [("reason", .text problem.text)]
  | none =>
    dsimp only
    cases m.shapes.find? fun s ↦ s.1 = Route.shape path with
    | some s => exact hskip "Skipping endpoint that overlaps a mounted route" [("overlaps", .text s.2)]
    | none =>
      cases Route.Pattern.parse? path with
      | none => exact hskip "Skipping endpoint rejected by the router" []
      | some π =>
        refine Effect.Yields.bind (yields_wrap path middleware (.single π endpoint)) ?_
        simp only [Option.isSome_none, Bool.false_eq_true, if_false]
        cases m.router.merge? (wrapped path middleware (.single π endpoint)) with
        | none => exact hskip "Skipping endpoint that conflicts with a mounted route" []
        | some router => exact Effect.yields_pure _

def mount (middleware : List (Middleware (host υ))) (m : Mounting υ)
    (es : List (String × OwnedEndpoint (MethodTable υ))) : Mounting υ :=
  es.foldl (fun m e ↦ m.added middleware e.1 e.2.endpoint) m

theorem yields_mountAll (middleware : List (Middleware (host υ))) (m : Mounting υ)
    (es : List (String × OwnedEndpoint (MethodTable υ))) :
    (mountAll middleware es m).Yields (m.mount middleware es) := by
  induction es generalizing m with
  | nil => exact Effect.yields_pure m
  | cons e es ih =>
    exact Effect.Yields.bind
      (yields_add m middleware (some e.2.owner) e.1 e.2.endpoint) (ih _)

end Mounting

def mounting (m : Manager (host υ) υ) : Mounting υ := Mounting.mount m.middleware {} m.table.entries

theorem yields_assemble (m : Manager (host υ) υ) (server : Config.ServerConfig) :
    (assemble m server).Yields
      ((mounting m).router.layer (hookLayer m.hooks server.requestTimeoutSeconds)) :=
  Effect.Yields.bind (Mounting.yields_mountAll m.middleware {} m.table.entries) (Effect.yields_pure _)

/-- Every middleware puts a layer of its own around all services of a router. -/
def Wraps (layerOf : Middleware (host υ) → Layer υ) (middleware : List (Middleware (host υ))) : Prop :=
  ∀ mw ∈ middleware, ∀ r, applied mw r = r.layer (layerOf mw)

def around (layerOf : Middleware (host υ) → Layer υ) (ms : List (Middleware (host υ))) : Layer υ :=
  fun next ↦ ms.foldr layerOf next

theorem wrapped_eq_layer {layerOf : Middleware (host υ) → Layer υ}
    {middleware : List (Middleware (host υ))} (h : Wraps layerOf middleware) (path : String)
    (r : Router υ) :
    wrapped path middleware r = r.layer (around layerOf (covering middleware path)) := by
  have hfold (ms : List (Middleware (host υ))) (hms : Wraps layerOf ms) :
      ms.foldr applied r = r.layer (around layerOf ms) := by
    induction ms with
    | nil => exact (Router.layer_id r).symm
    | cons mw ms ih =>
      rw [List.foldr_cons, ih fun a ha ↦ hms a (List.mem_cons_of_mem mw ha), hms mw List.mem_cons_self,
        Router.layer_layer]
      rfl
  exact hfold _ fun mw hmw ↦ h mw (List.mem_filter.1 hmw).1

def notFound : Service υ := fun _ ↦ return .empty 404

namespace Mounting

variable {layerOf : Middleware (host υ) → Layer υ} {middleware : List (Middleware (host υ))}
  {table : EndpointTable (MethodTable υ)} {m : Mounting υ} {path : String}

theorem parse?_of_pattern? {π : Route.Pattern} (h : m.pattern? path = some π) :
    Route.Pattern.parse? path = some π := by
  rw [pattern?] at h
  split at h
  · cases h
  · split at h
    · cases h
    · exact h

def extended (m : Mounting υ) (layerOf : Middleware (host υ) → Layer υ)
    (middleware : List (Middleware (host υ))) (path : String) (π : Route.Pattern)
    (endpoint : MethodTable υ) : Mounting υ where
  router := {
    routes := m.router.routes ++ [⟨π, endpoint.layer (around layerOf (covering middleware path))⟩]
    fallback := around layerOf (covering middleware path) notFound }
  shapes := m.shapes ++ [(Route.shape path, path)]

theorem added_cases (h : Wraps layerOf middleware) {m : Mounting υ}
    (hown : m.router.ownFallback = false) (path : String) (endpoint : MethodTable υ) :
    m.added middleware path endpoint = m ∨
    ∃ π, m.pattern? path = some π ∧ (∀ route ∈ m.router.routes, route.pattern.conflicts π = false) ∧
      m.added middleware path endpoint = m.extended layerOf middleware path π endpoint := by
  rw [added]
  cases hπ : m.pattern? path with
  | none => exact .inl rfl
  | some π =>
    dsimp only
    rw [wrapped_eq_layer h]
    cases hmerge : m.router.merge?
      ((Router.single π endpoint).layer (around layerOf (covering middleware path))) with
    | none => exact .inl rfl
    | some router =>
      obtain ⟨hapart, -, rfl⟩ := Router.merge?_eq_some.1 hmerge
      refine .inr ⟨π, rfl, hapart _ List.mem_cons_self, ?_⟩
      rw [hown]
      rfl

def lastCovering (m : Mounting υ) (middleware : List (Middleware (host υ))) :
    List (Middleware (host υ)) :=
  m.paths.getLast?.elim [] (covering middleware)

/-- The route of a mounted path serves the endpoint of that path, wrapped by the middleware that
covers it. -/
structure RouteOf (layerOf : Middleware (host υ) → Layer υ) (middleware : List (Middleware (host υ)))
    (table : EndpointTable (MethodTable υ)) (path : String) (route : Route υ) : Prop where
  pattern : Route.Pattern.parse? path = some route.pattern
  endpoint : ∃ o, table.get? path = some o ∧
    route.endpoint = o.endpoint.layer (around layerOf (covering middleware path))

/-- Every mounted path has a route of its own, and no two routes conflict. What no route matches
goes to the middleware of the path mounted last. -/
structure Standing (layerOf : Middleware (host υ) → Layer υ) (middleware : List (Middleware (host υ)))
    (table : EndpointTable (MethodTable υ)) (m : Mounting υ) : Prop where
  routes : List.Forall₂ (RouteOf layerOf middleware table) m.paths m.router.routes
  apart : m.router.routes.Pairwise fun a b ↦ a.pattern.conflicts b.pattern = false
  fallback : m.router.fallback = around layerOf (m.lastCovering middleware) notFound
  ownFallback : m.router.ownFallback = false

theorem standing_empty : Standing layerOf middleware table ({} : Mounting υ) := ⟨.nil, .nil, rfl, rfl⟩

theorem paths_extended {π : Route.Pattern} {endpoint : MethodTable υ} :
    (m.extended layerOf middleware path π endpoint).paths = m.paths ++ [path] :=
  List.map_append

theorem Standing.added (h : Standing layerOf middleware table m) (hwraps : Wraps layerOf middleware)
    {o : OwnedEndpoint (MethodTable υ)} (ho : table.get? path = some o) :
    Standing layerOf middleware table (m.added middleware path o.endpoint) := by
  rcases added_cases hwraps h.ownFallback path o.endpoint with heq | ⟨π, hπ, hapart, heq⟩
  · rw [heq]
    exact h
  · rw [heq]
    have hroute : RouteOf layerOf middleware table path
        ⟨π, o.endpoint.layer (around layerOf (covering middleware path))⟩ :=
          ⟨parse?_of_pattern? hπ, o, ho, rfl⟩
    refine ⟨?_, ?_, ?_, rfl⟩
    · rw [paths_extended]
      exact List.rel_append h.routes (.cons hroute .nil)
    · refine List.pairwise_append.2 ⟨h.apart, List.pairwise_singleton _ _, fun a ha b hb ↦ ?_⟩
      rw [List.mem_singleton.1 hb]
      exact hapart a ha
    · rw [lastCovering, paths_extended, List.getLast?_concat]
      rfl

theorem Standing.exists_route (h : Standing layerOf middleware table m) (hpath : path ∈ m.paths) :
    ∃ route ∈ m.router.routes, RouteOf layerOf middleware table path route := by
  obtain ⟨i, hi, rfl⟩ := List.getElem_of_mem hpath
  have hi' : i < m.router.routes.length := h.routes.length_eq ▸ hi
  exact ⟨m.router.routes[i], List.getElem_mem hi', h.routes.get hi hi'⟩

theorem Standing.exists_path (h : Standing layerOf middleware table m) {route : Route υ}
    (hroute : route ∈ m.router.routes) :
    ∃ path ∈ m.paths, RouteOf layerOf middleware table path route := by
  obtain ⟨i, hi, rfl⟩ := List.getElem_of_mem hroute
  have hi' : i < m.paths.length := h.routes.length_eq ▸ hi
  exact ⟨m.paths[i], List.getElem_mem hi', h.routes.get hi' hi⟩

theorem Standing.mount (h : Standing layerOf middleware table m) (hwraps : Wraps layerOf middleware)
    {es : List (String × OwnedEndpoint (MethodTable υ))} (hes : ∀ e ∈ es, table.get? e.1 = some e.2) :
    Standing layerOf middleware table (m.mount middleware es) := by
  induction es generalizing m with
  | nil => exact h
  | cons e es ih =>
    exact ih (h.added hwraps (hes e List.mem_cons_self)) fun a ha ↦ hes a (List.mem_cons_of_mem e ha)

theorem Standing.eq_of_pattern_eq (h : Standing layerOf middleware table m) {a b : Route υ}
    (ha : a ∈ m.router.routes) (hb : b ∈ m.router.routes) (heq : a.pattern = b.pattern) : a = b := by
  have hnodup : (m.router.routes.map (·.pattern)).Nodup := by
    refine List.pairwise_map.2 (h.apart.imp fun {a b} hconflict heq ↦ ?_)
    rw [heq, Route.Pattern.conflicts_self] at hconflict
    cases hconflict
  exact List.inj_on_of_nodup_map hnodup ha hb heq

theorem Standing.routeOf (h : Standing layerOf middleware table m) {route : Route υ}
    (hpath : path ∈ m.paths) (hroute : route ∈ m.router.routes)
    (hparse : Route.Pattern.parse? path = some route.pattern) :
    RouteOf layerOf middleware table path route := by
  obtain ⟨own, hown, hrouteOf⟩ := h.exists_route hpath
  have hpattern : route.pattern = own.pattern := Option.some.inj (hparse.symm.trans hrouteOf.pattern)
  rw [h.eq_of_pattern_eq hroute hown hpattern]
  exact hrouteOf

end Mounting

theorem standing_mounting (m : Manager (host υ) υ) {layerOf : Middleware (host υ) → Layer υ}
    (hwraps : Wraps layerOf m.middleware) : (mounting m).Standing layerOf m.middleware m.table :=
  Mounting.standing_empty.mount hwraps fun e he ↦ (m.table.mem_entries_iff e.1 e.2).1 he

def teapot (scope : String) : Middleware (host Unit) :=
  ⟨scope, 0, Router.layer fun _ _ ↦ return .empty 418⟩

def teaPlugin (scope path : String) (hooks : Option (HookBundle Unit)) : Plugin (host Unit) Unit :=
  AssembledPlugin.toPlugin {
    id := "tea"
    endpoints := .ofList [(path, .get fun _ ↦ return .text 200 "tea")]
    hooks
    middleware := [teapot scope] }

def teaManager (scope path : String) (hooks : Option (HookBundle Unit)) :
    Manager (host Unit) Unit where
  plugins := [teaPlugin scope path hooks]
  table := .ofList [(path, ⟨"tea", .get fun _ ↦ return .text 200 "tea"⟩)]
  hooks := HookRegistry.empty.register "tea" hooks
  middleware := [teapot scope]
  state := .initialized

theorem start_teaPlugin {config : Config.AppConfig} (scope path : String)
    (hooks : Option (HookBundle Unit)) :
    ∃ w, ((Manager.ofPlugins [teaPlugin scope path hooks]).start config).outcome (World.start ()) =
      (.ok (teaManager scope path hooks, .ok ()), w) := by
  have hadopt : ∃ w, (Manager.adoptAll config [teaPlugin scope path hooks]
      (Manager.ofPlugins [teaPlugin scope path hooks])).outcome (World.start ()) =
      (.ok ({ teaManager scope path hooks with state := .uninitialized }, .ok ()), w) := by
    cases hooks <;> exact ⟨_, rfl⟩
  obtain ⟨w, hadopt⟩ := hadopt
  exact Manager.exists_outcome_start hadopt (List.mergeSort_singleton _)

end FrontDoor.Http
