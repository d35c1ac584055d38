import FrontDoor.AssembledPlugin
import FrontDoor.Proofs.Manager.Merge

namespace FrontDoor

variable {H : Host} {υ : Type}

namespace Manager

open Contribution

variable {ps : PluginList H υ} {ctx : H.Context} {w w' : World υ} {m : Manager H υ}
  {cs : List (Contribution H υ)}

theorem sortByPriority_perm (ms : List (Middleware H)) :
    (sortByPriority ms).Perm ms := List.mergeSort_perm ms _

theorem priority_trans (a b c : Middleware H) (hab : decide (a.priority ≤ b.priority) = true)
    (hbc : decide (b.priority ≤ c.priority) = true) : decide (a.priority ≤ c.priority) = true := by
  simp only [decide_eq_true_eq] at *
  omega

theorem priority_total (a b : Middleware H) :
    (decide (a.priority ≤ b.priority) || decide (b.priority ≤ a.priority)) = true := by
  simp only [Bool.or_eq_true, decide_eq_true_eq]
  omega

theorem pairwise_sortByPriority (ms : List (Middleware H)) :
    (sortByPriority ms).Pairwise fun a b ↦ a.priority ≤ b.priority :=
  (List.pairwise_mergeSort priority_trans priority_total ms).imp of_decide_eq_true

theorem filter_sortByPriority (ms : List (Middleware H)) (n : Int) :
    (sortByPriority ms).filter (fun a ↦ a.priority = n) = ms.filter fun a ↦ a.priority = n := by
  have hpair : (ms.filter fun a ↦ a.priority = n).Pairwise fun a b ↦ decide (a.priority ≤ b.priority) =
      true := by
    refine List.pairwise_of_forall_mem_list fun a ha b hb ↦ ?_
    have hpa := of_decide_eq_true (List.mem_filter.1 ha).2
    have hpb := of_decide_eq_true (List.mem_filter.1 hb).2
    simp only [decide_eq_true_eq]
    omega
  have hsub : (ms.filter fun a ↦ a.priority = n).Sublist (sortByPriority ms) :=
    List.sublist_mergeSort priority_trans priority_total hpair List.filter_sublist
  -- A sublist as long as the whole is the whole.
  have hfilter := hsub.filter fun a ↦ decide (a.priority = n)
  rw [List.filter_filter] at hfilter
  simp only [Bool.and_self] at hfilter
  exact (hfilter.eq_of_length ((sortByPriority_perm ms).filter _).length_eq.symm).symm

theorem outcome_start_eq_ok :
    ((ofPlugins ps).start ctx).outcome w = (.ok (m, .ok ()), w') ↔
      ∃ m₁ w₁, (adoptAll ctx ps (ofPlugins ps)).outcome w = (.ok (m₁, .ok ()), w₁) ∧
        m = { m₁ with middleware := sortByPriority m₁.middleware, state := .initialized } ∧
        w' = w₁.logged [⟨.info, .manager, "Plugins initialized", [("plugins", .int m₁.plugins.length),
          ("endpoints", .int m₁.table.size),
            ("middleware", .int (sortByPriority m₁.middleware).length)]⟩] := by
  rw [start, if_neg (by simp [ofPlugins]), Effect.outcome_bind_eq_ok]
  constructor
  · rintro ⟨⟨m₁, e | _⟩, w₁, ha, h⟩
    · cases h
    · cases h
      exact ⟨m₁, w₁, ha, rfl, rfl⟩
  · rintro ⟨m₁, w₁, ha, rfl, rfl⟩
    exact ⟨_, w₁, ha, rfl⟩

theorem exists_outcome_start {w₁ : World υ} {ms : List (Middleware H)}
    (hadopt : (adoptAll ctx ps (ofPlugins ps)).outcome w = (.ok (m, .ok ()), w₁))
    (hsorted : sortByPriority m.middleware = ms) :
    ∃ w', ((ofPlugins ps).start ctx).outcome w =
      (.ok ({ m with middleware := ms, state := .initialized }, .ok ()), w') := by
  refine ⟨_, outcome_start_eq_ok.2 ⟨m, w₁, hadopt, ?_, rfl⟩⟩
  rw [hsorted]

theorem outcome_start_eq_error {e : PluginError} :
    ((ofPlugins ps).start ctx).outcome w = (.ok (m, .error e), w') ↔
      ∃ m₁, (adoptAll ctx ps (ofPlugins ps)).outcome w = (.ok (m₁, .error e), w') ∧
        m = { m₁ with state := .failed } := by
  rw [start, if_neg (by simp [ofPlugins]), Effect.outcome_bind_eq_ok]
  constructor
  · rintro ⟨⟨m₁, e | _⟩, w₁, ha, h⟩
    · cases h
      exact ⟨m₁, ha, rfl⟩
    · cases h
  · rintro ⟨m₁, ha, rfl⟩
    exact ⟨_, w', ha, rfl⟩

/-- Every plugin of the list, one after another, starts without a fault and contributes, and no path
is declared at two positions of the list. -/
structure Contributed (ctx : H.Context) (ps : PluginList H υ) (w : World υ)
    (cs : List (Contribution H υ)) : Prop where
  plugins : cs.map (·.plugin) = ps
  given : ∃ w', Runs (Given ctx) cs w w'
  noSharedPath : NoSharedPath cs

/-- A manager that serves exactly what was contributed, the lowest priority first. -/
structure Serves (m : Manager H υ) (cs : List (Contribution H υ)) : Prop where
  state : m.state = .initialized
  endpoints : ∀ path endpoint, m.endpoints.get? path = some endpoint ↔
    ∃ c ∈ cs, c.endpoints.get? path = some endpoint
  owner : ∀ path id, m.endpointOwner? path = some id ↔
    ∃ c ∈ cs, c.plugin.id = id ∧ c.endpoints.contains path
  hooks : ∀ p id, m.hooks.hooksOf p id =
    (cs.filter fun c ↦ c.plugin.id = id).flatMap fun c ↦ c.registration.hooks p
  permutation : m.middleware.Perm (cs.flatMap (·.middleware))
  ascending : m.middleware.Pairwise fun a b ↦ a.priority ≤ b.priority
  stable : ∀ n, m.middleware.filter (fun a ↦ a.priority = n) =
    (cs.flatMap (·.middleware)).filter fun a ↦ a.priority = n

theorem hooksOf_registrations (cs : List (Contribution H υ)) (p : Phase) (id : String) :
    History.hooksOf (cs.map (·.registration)) p id =
      (cs.filter fun c ↦ c.plugin.id = id).flatMap fun c ↦ c.registration.hooks p := by
  rw [History.hooksOf, List.filter_map, List.flatMap_map]
  rfl

theorem hooks_ofPlugins_mergeAll (ps : PluginList H υ) (cs : List (Contribution H υ)) :
    ((ofPlugins ps).mergeAll cs).hooks = .ofHistory (cs.map (·.registration)) :=
  hooks_mergeAll (ofPlugins ps) cs

theorem fit_empty_iff {cs : List (Contribution H υ)} :
    Fit (∅ : EndpointTable H.Endpoint) cs ↔ NoSharedPath cs :=
  ⟨Fit.noSharedPath, fun h ↦ ⟨fun _ _ path _ ↦ Dict.get?_empty path, h⟩⟩

theorem get?_ofPlugins_mergeAll (h : NoSharedPath cs) {path : String} {o : OwnedEndpoint H.Endpoint} :
    ((ofPlugins ps).mergeAll cs).table.get? path = some o ↔ ∃ c ∈ cs, c.owned? path = some o := by
  rw [get?_mergeAll (fit_empty_iff.2 h), ofPlugins]
  simp only [show Dict.get? (∅ : EndpointTable H.Endpoint) path = none from rfl, reduceCtorEq,
    or_false]

theorem serves_of_table {cs : List (Contribution H υ)} (hstate : m.state = .initialized)
    (htable : ∀ path o, m.table.get? path = some o ↔ ∃ c ∈ cs, c.owned? path = some o)
    (hhooks : m.hooks = .ofHistory (cs.map (·.registration)))
    (hmiddleware : m.middleware = sortByPriority (cs.flatMap (·.middleware))) : m.Serves cs where
  state := hstate
  endpoints path endpoint := by
    rw [Manager.endpoints, EndpointTable.get?_endpoints, Option.map_eq_some_iff]
    constructor
    · rintro ⟨o, ho, rfl⟩
      obtain ⟨c, hc, hown⟩ := (htable path o).1 ho
      exact ⟨c, hc, (owned?_eq_some.1 hown).1⟩
    · rintro ⟨c, hc, he⟩
      exact ⟨⟨c.plugin.id, endpoint⟩, (htable path _).2 ⟨c, hc, owned?_eq_some.2 ⟨he, rfl⟩⟩, rfl⟩
  owner path id := by
    rw [endpointOwner?, EndpointTable.owner?, Option.map_eq_some_iff]
    constructor
    · rintro ⟨o, ho, rfl⟩
      obtain ⟨c, hc, hown⟩ := (htable path o).1 ho
      exact ⟨c, hc, (owned?_eq_some.1 hown).2, contains_iff_owned?.2 ⟨o, hown⟩⟩
    · rintro ⟨c, hc, rfl, hcon⟩
      obtain ⟨o, hown⟩ := contains_iff_owned?.1 hcon
      exact ⟨o, (htable path o).2 ⟨c, hc, hown⟩, (owned?_eq_some.1 hown).2.symm⟩
  hooks p id := by rw [hhooks, HookRegistry.hooksOf_ofHistory, hooksOf_registrations]
  permutation := hmiddleware ▸ sortByPriority_perm _
  ascending := hmiddleware ▸ pairwise_sortByPriority _
  stable n := by rw [hmiddleware, filter_sortByPriority]

theorem exists_serves_of_start (h : ((ofPlugins ps).start ctx).outcome w = (.ok (m, .ok ()), w')) :
    ∃ cs, Contributed ctx ps w cs ∧ m.Serves cs := by
  obtain ⟨m₁, w₁, ha, rfl, -⟩ := outcome_start_eq_ok.1 h
  obtain ⟨cs, hcs, hruns, hfit, rfl⟩ := adoptAll_eq_ok_iff.1 ha
  refine ⟨cs, ⟨hcs, ⟨w₁, hruns⟩, hfit.noSharedPath⟩, ?_⟩
  refine serves_of_table rfl (fun path o ↦ get?_ofPlugins_mergeAll hfit.noSharedPath)
    (hooks_ofPlugins_mergeAll ps cs) ?_
  exact congrArg sortByPriority (middleware_mergeAll (ofPlugins ps) cs)

/-- A fresh manager's initialization succeeds exactly when every plugin contributes and no path is
declared at two positions of the list; it then serves exactly what was contributed. -/
theorem start_eq_ok_iff (ps : PluginList H υ) (ctx : H.Context) (w : World υ) :
    ((∃ m w', ((ofPlugins ps).start ctx).outcome w = (.ok (m, .ok ()), w')) ↔
      ∃ cs, Contributed ctx ps w cs) ∧
    ∀ m w', ((ofPlugins ps).start ctx).outcome w = (.ok (m, .ok ()), w') →
      ∃ cs, Contributed ctx ps w cs ∧ m.Serves cs := by
  refine ⟨⟨?_, ?_⟩, ?_⟩
  · rintro ⟨m, w', h⟩
    obtain ⟨m₁, w₁, ha, -, -⟩ := outcome_start_eq_ok.1 h
    obtain ⟨cs, hcs, hruns, hfit, -⟩ := adoptAll_eq_ok_iff.1 ha
    exact ⟨cs, hcs, ⟨w₁, hruns⟩, hfit.noSharedPath⟩
  · rintro ⟨cs, hcs, ⟨w₁, hruns⟩, hshared⟩
    have hfit : Fit (ofPlugins ps).table cs := fit_empty_iff.2 hshared
    have ha := adoptAll_eq_ok_iff.2 ⟨cs, hcs, hruns, hfit, rfl⟩
    exact ⟨_, _, outcome_start_eq_ok.2 ⟨_, w₁, ha, rfl, rfl⟩⟩
  · exact fun m w' h ↦ exists_serves_of_start h

def textHost : Host := ⟨Unit, String, List String⟩

def textPlugin (id : String) (paths : List String) (middleware : List (Middleware textHost)) :
    Plugin textHost Unit :=
  AssembledPlugin.toPlugin { id, middleware, endpoints := .ofList (paths.map fun path ↦ (path, "")) }

theorem start_eq_ok_iff_twins :
    let twins := [textPlugin "a" ["/x"] [⟨"/", 5, id⟩],
      textPlugin "a" ["/y", "/m"] [⟨"/m", -3, id⟩, ⟨"*", 5, id⟩]]
    ∃ m w', ((ofPlugins twins).start ()).outcome (World.start ()) = (.ok (m, .ok ()), w') ∧
      ∃ cs, Contributed () twins (World.start ()) cs ∧ m.Serves cs :=
  ⟨_, _, rfl, (start_eq_ok_iff _ _ _).2 _ _ rfl⟩

/-- A manager whose initialization failed after these contributions were merged; `extra` gives what
else its table holds. -/
structure LeftWith (m : Manager H υ) (cs : List (Contribution H υ))
    (extra : String → Option (OwnedEndpoint H.Endpoint)) : Prop where
  state : m.state = .failed
  hooks : m.hooks = .ofHistory (cs.map (·.registration))
  middleware : m.middleware = cs.flatMap (·.middleware)
  table : ∀ path o, m.table.get? path = some o ↔
    (∃ c ∈ cs, c.owned? path = some o) ∨ extra path = some o

/-- Initialization failed at position `k`: the plugins before it are merged, and the last call was
one of plugin `k`. Either it did not start, and nothing of it is merged, or it declares a path that
another one owns, and exactly its endpoints below the least such path are. -/
inductive FailsAt (ctx : H.Context) (ps : PluginList H υ) (w : World υ) (k : Nat) :
    Manager H υ → PluginError → World υ → Prop
  | start {p : Plugin H υ} {cs : List (Contribution H υ)} {w₁ w' : World υ} {m : Manager H υ}
    {fault : Fault} :
      ps[k]? = some p → Contributed ctx (ps.take k) w cs → Runs (Given ctx) cs w w₁ →
      (p.start ctx).outcome w₁ = (.ok (.error fault), w') →
      m.LeftWith cs (fun _ ↦ none) → FailsAt ctx ps w k m (.initialization p.id fault) w'
  | conflict {p : Plugin H υ} {cs : List (Contribution H υ)} {w₁ w₂ w' : World υ} {m : Manager H υ}
      {d : Dict H.Endpoint} {path : String} {c : Contribution H υ} :
      ps[k]? = some p → Contributed ctx (ps.take k) w cs → Runs (Given ctx) cs w w₁ →
      (p.start ctx).outcome w₁ = (.ok (.ok ()), w₂) → p.endpoints.outcome w₂ = (.ok d, w') →
      d.contains path → c ∈ cs → c.endpoints.contains path →
      (∀ q, q < path → d.contains q → ∀ a ∈ cs, ¬ a.endpoints.contains q) →
      m.LeftWith cs (fun q ↦ if q < path then (d.get? q).map (⟨p.id, ·⟩) else none) →
      FailsAt ctx ps w k m (.endpointConflict path p.id c.plugin.id) w'

theorem failsAt_of_rejects {p : Plugin H υ} {rest : List (Plugin H υ)} {w₁ : World υ} {e : PluginError}
    (hps : ps = cs.map (·.plugin) ++ p :: rest) (hruns : Runs (Given ctx) cs w w₁)
    (hshared : NoSharedPath cs)
    (h : Rejects ((ofPlugins ps).mergeAll cs) ctx p w₁ m e w') :
    FailsAt ctx ps w cs.length { m with state := .failed } e w' := by
  have hget : ps[cs.length]? = some p := by
    rw [hps, List.getElem?_append_right (by simp)]
    simp
  have htake : ps.take cs.length = cs.map (·.plugin) := by
    rw [hps]
    exact List.take_left' (by simp)
  have hcon : Contributed ctx (ps.take cs.length) w cs := ⟨htake.symm, ⟨w₁, hruns⟩, hshared⟩
  have hmw : ((ofPlugins ps).mergeAll cs).middleware = cs.flatMap (·.middleware) :=
    middleware_mergeAll (ofPlugins ps) cs
  have htable (path : String) (o : OwnedEndpoint H.Endpoint) :
      ((ofPlugins ps).mergeAll cs).table.get? path = some o ↔ ∃ c ∈ cs, c.owned? path = some o :=
    get?_ofPlugins_mergeAll hshared
  cases h with
  | start hs =>
    refine .start hget hcon hruns hs ⟨rfl, hooks_ofPlugins_mergeAll ps cs, hmw, fun path o ↦ ?_⟩
    rw [htable]
    simp
  | @conflict w₂ _ d path o hs he hpath ho hbelow =>
    obtain ⟨c, hc, hown⟩ := (htable path o).1 ho
    have hid := (owned?_eq_some.1 hown).2
    have hfree (q : String) (hq : q < path) (hd : d.contains q) (a : Contribution H υ) (ha : a ∈ cs) :
        ¬ a.endpoints.contains q := by
      intro hcon
      obtain ⟨o', ho'⟩ := contains_iff_owned?.1 hcon
      have hsome := (htable q o').2 ⟨a, ha, ho'⟩
      rw [hbelow q hq hd] at hsome
      cases hsome
    rw [← hid]
    refine .conflict hget hcon hruns hs he hpath hc (contains_iff_owned?.2 ⟨o, hown⟩) hfree
      ⟨rfl, hooks_ofPlugins_mergeAll ps cs, hmw, fun q o' ↦ ?_⟩
    rw [EndpointTable.get?_withAll_below, ← htable]
    by_cases hq : q < path
    · rw [if_pos hq]
      cases hd : d.get? q with
      | none => simp
      | some endpoint =>
        have hnone := hbelow q hq (by rw [Dict.contains, hd]; rfl)
        simp [hnone]
    · simp [hq]

theorem FailsAt.position {k : Nat} {e : PluginError} (h : FailsAt ctx ps w k m e w') :
    ∃ p cs w₁, ps[k]? = some p ∧ Contributed ctx (ps.take k) w cs ∧ Runs (Given ctx) cs w w₁ ∧
      ∀ c w₂, c.plugin = p → Given ctx c w₁ w₂ →
        ∃ path, c.endpoints.contains path ∧ ∃ a ∈ cs, a.endpoints.contains path := by
  cases h with
  | @start p cs w₁ _ _ fault hget hcon hruns hs =>
    refine ⟨p, cs, w₁, hget, hcon, hruns, ?_⟩
    rintro c w₂ rfl ⟨hs', -⟩
    cases hs.symm.trans hs'
  | @conflict p cs w₁ w₂ _ _ d path a hget hcon hruns hs he hpath ha hown =>
    refine ⟨p, cs, w₁, hget, hcon, hruns, ?_⟩
    rintro c w₃ rfl ⟨hs', he', -⟩
    obtain ⟨-, rfl⟩ := Prod.mk.inj (hs.symm.trans hs')
    cases he.symm.trans he'
    exact ⟨path, hpath, a, ha, hown⟩

theorem FailsAt.not_lt {j k : Nat} {m' : Manager H υ} {e e' : PluginError} {w'' : World υ}
    (h : FailsAt ctx ps w j m e w') (h' : FailsAt ctx ps w k m' e' w'') : ¬ j < k := by
  intro hlt
  -- Behind a later position plugin `j` has contributed, in the very world in which the earlier
  -- failure found it.
  obtain ⟨p, cs, w₁, hget, hcon, hruns, hlast⟩ := h.position
  obtain ⟨_, ds, _, -, hcon', hruns', -⟩ := h'.position
  have hc : ∃ c, ds[j]? = some c ∧ c.plugin = p := by
    have hmap : (ds.map (·.plugin))[j]? = some p := by
      rw [hcon'.plugins, List.getElem?_take_of_lt hlt, hget]
    simpa only [List.getElem?_map, Option.map_eq_some_iff] using hmap
  obtain ⟨c, hgetc, hp⟩ := hc
  obtain ⟨hj, rfl⟩ := List.getElem?_eq_some_iff.1 hgetc
  have hsplit : ds = ds.take j ++ ds[j] :: ds.drop (j + 1) := by
    rw [← List.drop_eq_getElem_cons hj, List.take_append_drop]
  rw [hsplit] at hruns'
  obtain ⟨w₂, hruns₁, hruns₂⟩ := hruns'.of_append
  have hplugins : cs.map (·.plugin) = (ds.take j).map (·.plugin) := by
    rw [hcon.plugins, List.map_take, hcon'.plugins, List.take_take, Nat.min_eq_left (Nat.le_of_lt hlt)]
  obtain ⟨rfl, rfl⟩ := runs_deterministic hruns hruns₁ hplugins
  cases hruns₂ with
  | cons hgiven _ =>
    obtain ⟨path, hpath, a, ha, hown⟩ := hlast ds[j] _ hp hgiven
    have hshared := hcon'.noSharedPath
    rw [hsplit] at hshared
    exact (List.pairwise_append.1 hshared).2.2 a ha ds[j] List.mem_cons_self path hown hpath

end Manager

end FrontDoor
