import FrontDoor.Proofs.Frame.Locality

namespace FrontDoor.Http

variable {υ : Type} {middleware others : List (Middleware (host υ))}

/-- Middleware that wraps what is routed: it routes nothing else, and sets no fallback of its own. -/
def KeepsPatterns (mw : Middleware (host υ)) : Prop :=
  ∀ r, (applied mw r).patterns = r.patterns ∧ (applied mw r).ownFallback = r.ownFallback

theorem keepsPatterns_of_intercepts {α : Type} {c : Cell υ α} {mw : Middleware (host υ)}
    (h : Intercepts c mw) :
    KeepsPatterns mw := by
  obtain ⟨i, hlayer, -⟩ := h
  intro r
  rw [hlayer, Router.patterns, Router.layer, List.map_map]
  exact ⟨rfl, rfl⟩

theorem patterns_wrapped (h : ∀ mw ∈ middleware, KeepsPatterns mw) (path : String) (r : Router υ) :
    (wrapped path middleware r).patterns = r.patterns ∧
    (wrapped path middleware r).ownFallback = r.ownFallback := by
  rw [wrapped]
  apply List.foldrRecOn
    (motive := fun s : Router υ ↦ s.patterns = r.patterns ∧ s.ownFallback = r.ownFallback) _ _
      ⟨rfl, rfl⟩
  intro s hs mw hmw
  obtain ⟨hpatterns, hown⟩ := h mw (List.mem_filter.1 hmw).1 s
  exact ⟨hpatterns.trans hs.1, hown.trans hs.2⟩

namespace Mounting

structure SamePlaces (m n : Mounting υ) : Prop where
  shapes : m.shapes = n.shapes
  patterns : m.router.patterns = n.router.patterns
  ownFallback : m.router.ownFallback = n.router.ownFallback

variable {m n : Mounting υ}

theorem SamePlaces.added (h : m.SamePlaces n) (hmiddleware : ∀ mw ∈ middleware, KeepsPatterns mw)
    (hothers : ∀ mw ∈ others, KeepsPatterns mw) (path : String) (endpoint : MethodTable υ) :
    (m.added middleware path endpoint).SamePlaces (n.added others path endpoint) := by
  have hpattern : m.pattern? path = n.pattern? path := by rw [pattern?, pattern?, h.shapes]
  rw [Mounting.added, Mounting.added, hpattern]
  cases n.pattern? path with
  | none => exact h
  | some π =>
    obtain ⟨hpatterns, hown⟩ := patterns_wrapped hmiddleware path (.single π endpoint)
    obtain ⟨hpatterns', hown'⟩ := patterns_wrapped hothers path (.single π endpoint)
    dsimp only
    rw [Router.merge?_eq, Router.merge?_eq, hpatterns, hpatterns', hown, hown', h.patterns,
      h.ownFallback]
    by_cases hblocked :
      (((Router.single π endpoint).patterns.any fun b ↦ n.router.patterns.any fun a ↦ a.conflicts b) ||
        (n.router.ownFallback && (Router.single π endpoint).ownFallback)) = true
    · rw [if_pos hblocked, if_pos hblocked]
      exact h
    · rw [if_neg hblocked, if_neg hblocked]
      refine ⟨by rw [h.shapes], ?_, ?_⟩
      · rw [Router.patterns, Router.patterns, List.map_append, List.map_append]
        exact congrArg₂ _ h.patterns (hpatterns.trans hpatterns'.symm)
      · dsimp only
        cases n.router.ownFallback
        · exact hown.trans hown'.symm
        · exact h.ownFallback

theorem SamePlaces.mount (h : m.SamePlaces n) (hmiddleware : ∀ mw ∈ middleware, KeepsPatterns mw)
    (hothers : ∀ mw ∈ others, KeepsPatterns mw) (es : List (String × OwnedEndpoint (MethodTable υ))) :
    (m.mount middleware es).SamePlaces (n.mount others es) := by
  induction es generalizing m n with
  | nil => exact h
  | cons e es ih => exact ih (h.added hmiddleware hothers e.1 e.2.endpoint)

/-- Behind every mounted path stands what its middleware makes of the endpoint that a table has for
it. -/
def Routes (middleware : List (Middleware (host υ))) (table : EndpointTable (MethodTable υ))
    (m : Mounting υ) : Prop :=
  ∀ path ∈ m.paths, ∃ o π, table.get? path = some o ∧ Route.Pattern.parse? path = some π ∧
    ∀ route ∈ (wrapped path middleware (.single π o.endpoint)).routes, route ∈ m.router.routes

variable {table : EndpointTable (MethodTable υ)}

theorem Routes.added (h : Routes middleware table m) {path : String}
    {o : OwnedEndpoint (MethodTable υ)} (ho : table.get? path = some o) :
    Routes middleware table (m.added middleware path o.endpoint) := by
  rw [Mounting.added]
  cases hpattern : m.pattern? path with
  | none => exact h
  | some π =>
    dsimp only
    cases hmerge : m.router.merge? (wrapped path middleware (.single π o.endpoint)) with
    | none => exact h
    | some router =>
      obtain ⟨-, -, rfl⟩ := Router.merge?_eq_some.1 hmerge
      intro q hq
      rw [paths, List.map_append] at hq
      rcases List.mem_append.1 hq with hq | hq
      · obtain ⟨o', π', ho', hparse, hroutes⟩ := h q hq
        exact ⟨o', π', ho', hparse, fun route hroute ↦ List.mem_append_left _ (hroutes route hroute)⟩
      · rw [List.mem_singleton.1 hq]
        exact ⟨o, π, ho, parse?_of_pattern? hpattern,
          fun route hroute ↦ List.mem_append_right _ hroute⟩

theorem Routes.mount (h : Routes middleware table m)
    {es : List (String × OwnedEndpoint (MethodTable υ))}
    (hes : ∀ e ∈ es, table.get? e.1 = some e.2) : Routes middleware table (m.mount middleware es) := by
  apply List.foldlRecOn es _ h
  intro n hn e he
  exact Routes.added hn (hes e he)

end Mounting

/-- An endpoint is mounted at a path: a manager has it there, and the router has what the middleware
of the path makes of it. -/
structure Mounts (m : Manager (host υ) υ) (path : String) (endpoint : MethodTable υ) : Prop where
  mounted : path ∈ (mounting m).paths
  declared : m.endpoints.get? path = some endpoint
  routes : ∃ π, Route.Pattern.parse? path = some π ∧
    ∀ route ∈ (wrapped path m.middleware (.single π endpoint)).routes,
      route ∈ (mounting m).router.routes

theorem exists_mounts {m : Manager (host υ) υ} {path : String} (hpath : path ∈ (mounting m).paths) :
    ∃ endpoint, Mounts m path endpoint := by
  have hempty : Mounting.Routes m.middleware m.table ({} : Mounting υ) := by rintro path ⟨⟩
  have hmounted : Mounting.Routes m.middleware m.table (mounting m) :=
    hempty.mount fun e he ↦ (m.table.mem_entries_iff e.1 e.2).1 he
  obtain ⟨o, π, ho, hparse, hroutes⟩ := hmounted path hpath
  have hdeclared : m.endpoints.get? path = some o.endpoint :=
    (EndpointTable.get?_endpoints m.table path).trans (congrArg (Option.map OwnedEndpoint.endpoint) ho)
  exact ⟨o.endpoint, hpath, hdeclared, π, hparse, hroutes⟩

structure SameMounted (m n : Manager (host υ) υ) : Prop where
  paths : (mounting m).paths = (mounting n).paths
  endpoints : ∀ path ∈ (mounting m).paths, ∃ endpoint, Mounts m path endpoint ∧ Mounts n path endpoint

variable {m n : Manager (host υ) υ}

theorem sameMounted_of_paths (hendpoints : m.endpoints = n.endpoints)
    (hpaths : (mounting m).paths = (mounting n).paths) :
    SameMounted m n where
  paths := hpaths
  endpoints path hpath := by
    obtain ⟨endpoint, hm⟩ := exists_mounts hpath
    obtain ⟨other, hn⟩ := exists_mounts (hpaths ▸ hpath)
    have hsame : other = endpoint := by
      have hdeclared := hn.declared
      rw [← hendpoints, hm.declared] at hdeclared
      exact (Option.some.inj hdeclared).symm
    rw [hsame] at hn
    exact ⟨endpoint, hm, hn⟩

theorem mounting_eq_of_middleware (htable : m.table = n.table)
    (hmiddleware : m.middleware = n.middleware) :
    mounting m = mounting n := by
  rw [mounting, mounting, htable, hmiddleware]

theorem paths_mounting_eq (htable : m.table = n.table) (hperm : m.middleware.Perm n.middleware)
    (hkeeps : ∀ mw ∈ m.middleware, KeepsPatterns mw) : (mounting m).paths = (mounting n).paths := by
  have hempty : Mounting.SamePlaces ({} : Mounting υ) {} := ⟨rfl, rfl, rfl⟩
  have hmounted := hempty.mount hkeeps (fun mw hmw ↦ hkeeps mw (hperm.mem_iff.2 hmw)) n.table.entries
  rw [mounting, mounting, Mounting.paths, Mounting.paths, htable, hmounted.shapes]

/-- Let plugins with distinct identifiers be independent, and untouched at first. In every order
their initialization succeeds or fails alike. Where it succeeds, the managers have the same
endpoints, owners and hooks of each plugin, and the same middleware up to the order of one priority;
if no two plugins use one priority, or if middleware only wraps what is routed, the same endpoints
are mounted at the same paths. -/
theorem serves_in_any_order {ps qs : PluginList (host υ) υ} (hperm : ps.Perm qs) (hids : ps.ids.Nodup)
    (config : Config.AppConfig) (w : World υ) (untouched : Plugin (host υ) υ → World υ → Prop)
    (hindependent : Contribution.Independent config untouched ps) (hw : ∀ p ∈ ps, untouched p w) :
    ((∃ m w₁, ((Manager.ofPlugins ps).start config).outcome w = (.ok (m, .ok ()), w₁)) ↔
      ∃ n w₂, ((Manager.ofPlugins qs).start config).outcome w = (.ok (n, .ok ()), w₂)) ∧
    ∀ m w₁ n w₂, ((Manager.ofPlugins ps).start config).outcome w = (.ok (m, .ok ()), w₁) →
      ((Manager.ofPlugins qs).start config).outcome w = (.ok (n, .ok ()), w₂) →
      ∃ cs, Manager.Contributed config ps w cs ∧ m.Serves cs ∧ Manager.SameServed cs m n ∧
        (Contribution.NoSharedPriority cs ∨ (∀ mw ∈ m.middleware, KeepsPatterns mw) →
          SameMounted m n) ∧
        ∀ server : Config.ServerConfig,
          (assemble m server).Yields
            ((mounting m).router.layer (hookLayer m.hooks server.requestTimeoutSeconds)) ∧
          (assemble n server).Yields
            ((mounting n).router.layer (hookLayer n.hooks server.requestTimeoutSeconds)) := by
  have hback : ∀ p ∈ qs, untouched p w := fun p hp ↦ hw p (hperm.mem_iff.2 hp)
  have hidsBack : qs.ids.Nodup := ((hperm.map _).nodup_iff).1 hids
  refine ⟨?_, fun m w₁ n w₂ hm hn ↦ ?_⟩
  · rw [(Manager.start_eq_ok_iff ps config w).1, (Manager.start_eq_ok_iff qs config w).1]
    constructor
    · rintro ⟨cs, hcs⟩
      obtain ⟨ds, -, hds⟩ := Manager.exists_contributed_of_perm hperm hids hindependent hw hcs
      exact ⟨ds, hds⟩
    · rintro ⟨ds, hds⟩
      obtain ⟨cs, -, hcs⟩ :=
        Manager.exists_contributed_of_perm hperm.symm hidsBack (hindependent.perm hperm) hback hds
      exact ⟨cs, hcs⟩
  · obtain ⟨cs, hcs, hserves⟩ := Manager.exists_serves_of_start hm
    obtain ⟨ds, hds, hserves'⟩ := Manager.exists_serves_of_start hn
    obtain ⟨ds', hperm', hds'⟩ := Manager.exists_contributed_of_perm hperm hids hindependent hw hcs
    obtain rfl : ds' = ds := hds'.unique hds
    have hsame := Manager.sameServed_of_perm hperm' (hcs.ids ▸ hids) hserves hserves'
    refine ⟨cs, hcs, hserves, hsame, fun hmiddleware ↦ sameMounted_of_paths hsame.endpoints ?_,
      fun server ↦ ?_⟩
    · rcases hmiddleware with hpriority | hkeeps
      · rw [mounting_eq_of_middleware hsame.table (hsame.middleware hpriority)]
      · exact paths_mounting_eq hsame.table hsame.permutation hkeeps
    · exact ⟨yields_assemble m server, yields_assemble n server⟩

theorem serves_in_any_order_built_in :
    let ps := Server.builtIn
    let start := World.start ({} : Server.Memory)
    ps.Perm ps.reverse ∧ ps.ids.Nodup ∧
    Contribution.Independent ({} : Config.AppConfig) Server.Untouched ps ∧
    (∀ p ∈ ps, Server.Untouched p start) ∧
    ∃ m w₁ n w₂, ((Manager.ofPlugins ps).start {}).outcome start = (.ok (m, .ok ()), w₁) ∧
      ((Manager.ofPlugins ps.reverse).start {}).outcome start = (.ok (n, .ok ()), w₂) ∧
      SameMounted m n := by
  intro ps start
  have hperm : ps.Perm ps.reverse := (List.reverse_perm ps).symm
  have hids : ps.ids.Nodup := by decide
  have hindependent := Server.independent_builtIn {}
  have hw : ∀ p ∈ ps, Server.Untouched p start := fun _ _ ↦ ⟨fun _ ↦ rfl, fun _ ↦ rfl⟩
  obtain ⟨m, w₁, hstart⟩ := Server.exists_start_builtIn
  obtain ⟨hiff, hserves⟩ := serves_in_any_order hperm hids {} start Server.Untouched hindependent hw
  obtain ⟨n, w₂, hstart'⟩ := hiff.1 ⟨m, w₁, hstart⟩
  obtain ⟨cs, hcs, hserved, -, hmounted, -⟩ := hserves m w₁ n w₂ hstart hstart'
  refine ⟨hperm, hids, hindependent, hw, m, w₁, n, w₂, hstart, hstart',
    hmounted (.inr fun mw hmw ↦ ?_)⟩
  obtain ⟨c, hc, hmw⟩ := List.mem_flatMap.1 (hserved.permutation.mem_iff.1 hmw)
  obtain ⟨w', hruns⟩ := hcs.given
  obtain ⟨v, v', hgiven⟩ := Contribution.exists_given_of_mem hruns hc
  have hmem : c.plugin ∈ ps := hcs.plugins ▸ List.mem_map_of_mem hc
  rcases List.mem_pair.1 hmem with hplugin | hplugin
  · have hforeign := RateLimit.foreign_plugin Server.limiter_apart_audit
    exact keepsPatterns_of_intercepts ((hforeign.keepsAll {} c v v' hplugin hgiven).middleware mw hmw)
  · have hforeign := Audit.foreign_plugin Server.audit_apart_limiter
    exact keepsPatterns_of_intercepts ((hforeign.keepsAll {} c v v' hplugin hgiven).middleware mw hmw)

def extending : Middleware (host Unit) where
  scope := "/"
  priority := 0
  transform r := (r.merge?
    (.single ("/extra".toList.map .literal) (.get fun _ ↦ return .text 200 "extra"))).getD r

def clearing : Middleware (host Unit) := ⟨"/", 0, fun _ ↦ .empty⟩

def refusing (status : Nat) : Middleware (host Unit) :=
  ⟨"/", 0, Router.layer fun _ _ ↦ return .empty status⟩

def one (mw : Middleware (host Unit)) : Plugin (host Unit) Unit :=
  AssembledPlugin.toPlugin {
    id := "one"
    endpoints := .ofList [("/a", .get fun _ ↦ return .text 200 "a"),
      ("/b", .get fun _ ↦ return .text 200 "b")]
    middleware := [mw] }

def two (mw : Middleware (host Unit)) : Plugin (host Unit) Unit :=
  AssembledPlugin.toPlugin { id := "two", middleware := [mw] }

def pairManager (ps : PluginList (host Unit) Unit) (ms : List (Middleware (host Unit))) :
    Manager (host Unit) Unit where
  plugins := ps
  table := .ofList [("/a", ⟨"one", .get fun _ ↦ return .text 200 "a"⟩),
    ("/b", ⟨"one", .get fun _ ↦ return .text 200 "b"⟩)]
  middleware := ms
  state := .initialized

theorem start_pair (mw mw' : Middleware (host Unit)) (h : mw.priority = mw'.priority) :
    (∃ w, ((Manager.ofPlugins [one mw, two mw']).start {}).outcome (World.start ()) =
      (.ok (pairManager [one mw, two mw'] [mw, mw'], .ok ()), w)) ∧
    ∃ w, ((Manager.ofPlugins [two mw', one mw]).start {}).outcome (World.start ()) =
      (.ok (pairManager [two mw', one mw] [mw', mw], .ok ()), w) := by
  have hadopt : ∃ w, (Manager.adoptAll ({} : Config.AppConfig) [one mw, two mw']
      (Manager.ofPlugins [one mw, two mw'])).outcome (World.start ()) =
      (.ok ({ pairManager [one mw, two mw'] [mw, mw'] with state := .uninitialized }, .ok ()), w) :=
        ⟨_, rfl⟩
  have hadopt' : ∃ w, (Manager.adoptAll ({} : Config.AppConfig) [two mw', one mw]
      (Manager.ofPlugins [two mw', one mw])).outcome (World.start ()) =
      (.ok ({ pairManager [two mw', one mw] [mw', mw] with state := .uninitialized }, .ok ()), w) :=
        ⟨_, rfl⟩
  obtain ⟨w, hadopt⟩ := hadopt
  obtain ⟨w', hadopt'⟩ := hadopt'
  have hsorted {a b : Middleware (host Unit)} (hab : a.priority = b.priority) :
      Manager.sortByPriority [a, b] = [a, b] :=
    List.mergeSort_of_pairwise (List.pairwise_pair.2 (by simp [hab]))
  exact ⟨Manager.exists_outcome_start hadopt (hsorted h),
    Manager.exists_outcome_start hadopt' (hsorted h.symm)⟩

theorem independent_pair (mw mw' : Middleware (host Unit)) :
    Contribution.Independent ({} : Config.AppConfig) (fun _ _ ↦ True) [one mw, two mw'] := by
  refine AssembledPlugin.independent fun p hp ↦ ?_
  rcases List.mem_pair.1 hp with hp | hp
  · exact ⟨_, rfl, hp⟩
  · exact ⟨_, rfl, hp⟩

/-- Two plugins with middleware of one priority. In one order a path is not mounted that is mounted
in the other one, or a request is answered otherwise. -/
theorem order_of_one_priority :
    let mounts : PluginList (host Unit) Unit := [one extending, two clearing]
    let refuses : PluginList (host Unit) Unit := [one (refusing 401), two (refusing 403)]
    let ask : Request := { method := "GET", path := "/a" }
    mounts.ids.Nodup ∧ Contribution.Independent ({} : Config.AppConfig) (fun _ _ ↦ True) mounts ∧
    (∃ m w n w',
      ((Manager.ofPlugins mounts).start {}).outcome (World.start ()) = (.ok (m, .ok ()), w) ∧
      ((Manager.ofPlugins mounts.reverse).start {}).outcome (World.start ()) = (.ok (n, .ok ()), w') ∧
      (mounting m).paths = ["/a"] ∧ (mounting n).paths = ["/a", "/b"]) ∧
    refuses.ids.Nodup ∧ Contribution.Independent ({} : Config.AppConfig) (fun _ _ ↦ True) refuses ∧
    ∃ m w n w' router router',
      ((Manager.ofPlugins refuses).start {}).outcome (World.start ()) = (.ok (m, .ok ()), w) ∧
      ((Manager.ofPlugins refuses.reverse).start {}).outcome (World.start ()) = (.ok (n, .ok ()), w') ∧
      (assemble m {}).Yields router ∧ (assemble n {}).Yields router' ∧
      ((router.handle ask).outcome (World.start ())).1.toOption.map (·.status) = some 401 ∧
      ((router'.handle ask).outcome (World.start ())).1.toOption.map (·.status) = some 403 := by
  intro mounts refuses ask
  obtain ⟨⟨w, hstart⟩, ⟨w', hstart'⟩⟩ := start_pair extending clearing rfl
  obtain ⟨⟨v, hrefuses⟩, ⟨v', hrefuses'⟩⟩ := start_pair (refusing 401) (refusing 403) rfl
  refine ⟨by decide, independent_pair _ _, ⟨_, w, _, w', hstart, hstart', ?_, ?_⟩, by decide,
    independent_pair _ _, _, v, _, v', _, _, hrefuses, hrefuses', yields_assemble _ _,
      yields_assemble _ _, ?_, ?_⟩
  · decide +kernel
  · decide +kernel
  · decide +kernel
  · decide +kernel

end FrontDoor.Http
