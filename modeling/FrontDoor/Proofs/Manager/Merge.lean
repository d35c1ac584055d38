import FrontDoor.Proofs.Manager.Contribution

namespace FrontDoor

variable {H : Host} {υ : Type}

namespace Contribution

variable {t : EndpointTable H.Endpoint} {c : Contribution H υ} {cs : List (Contribution H υ)}

theorem contains_iff_owned? {path : String} :
    c.endpoints.contains path = true ↔ ∃ o, c.owned? path = some o := by
  simp only [Dict.contains, Option.isSome_iff_exists, owned?, Option.map_eq_some_iff]
  constructor
  · rintro ⟨e, he⟩
    exact ⟨⟨c.plugin.id, e⟩, e, he, rfl⟩
  · rintro ⟨_, e, he, _⟩
    exact ⟨e, he⟩

theorem owned?_eq_none {path : String} : c.owned? path = none ↔ ¬ c.endpoints.contains path := by
  rw [contains_iff_owned?, ← Option.ne_none_iff_exists', not_ne_iff]

def addTo (c : Contribution H υ) (t : EndpointTable H.Endpoint) : EndpointTable H.Endpoint :=
  t.withAll c.plugin.id c.endpoints.entries

theorem get?_addTo (t : EndpointTable H.Endpoint) (c : Contribution H υ) (path : String) :
    (c.addTo t).get? path = (c.owned? path).or (t.get? path) :=
  EndpointTable.get?_withAll t c.plugin.id c.endpoints.ascending path

theorem fit_cons :
    Fit t (c :: cs) ↔ (∀ path, c.endpoints.contains path → t.get? path = none) ∧
    Fit (c.addTo t) cs := by
  constructor
  · rintro ⟨hfree, hpair⟩
    obtain ⟨hc, hcs⟩ := List.pairwise_cons.1 hpair
    refine ⟨hfree c List.mem_cons_self, fun a ha path hpath ↦ ?_, hcs⟩
    have hnone : c.owned? path = none := owned?_eq_none.2 fun h ↦ hc a ha path h hpath
    rw [get?_addTo, hnone, hfree a (List.mem_cons_of_mem _ ha) path hpath]
    rfl
  · rintro ⟨hc, hfree, hpair⟩
    have hsplit (a : Contribution H υ) (ha : a ∈ cs) (path : String)
        (hpath : a.endpoints.contains path) :
        c.owned? path = none ∧ t.get? path = none := by
      have h := hfree a ha path hpath
      rw [get?_addTo] at h
      exact Option.or_eq_none_iff.1 h
    refine ⟨fun a ha path hpath ↦ ?_, List.pairwise_cons.2 ⟨fun a ha path hown hpath ↦ ?_, hpair⟩⟩
    · rcases List.mem_cons.1 ha with rfl | ha
      · exact hc path hpath
      · exact (hsplit a ha path hpath).2
    · exact owned?_eq_none.1 (hsplit a ha path hpath).1 hown

theorem get?_addTo_eq_some (hc : ∀ path, c.endpoints.contains path → t.get? path = none)
    {path : String} {o : OwnedEndpoint H.Endpoint} :
    (c.addTo t).get? path = some o ↔ c.owned? path = some o ∨ t.get? path = some o := by
  rw [get?_addTo]
  cases hown : c.owned? path with
  | none => simp
  | some o' =>
    have hnone : t.get? path = none := hc path (contains_iff_owned?.2 ⟨o', hown⟩)
    simp [hnone]

end Contribution

namespace Manager

open Contribution

variable {m m' : Manager H υ} {ctx : H.Context} {p : Plugin H υ} {w w' : World υ}

def merge (m : Manager H υ) (c : Contribution H υ) : Manager H υ :=
  { m with
    table := c.addTo m.table
    hooks := m.hooks.register c.plugin.id c.hooks
    middleware := m.middleware ++ c.middleware }

def mergeAll (m : Manager H υ) (cs : List (Contribution H υ)) : Manager H υ := cs.foldl merge m

theorem mergeAll_cons (m : Manager H υ) (c : Contribution H υ) (cs : List (Contribution H υ)) :
    m.mergeAll (c :: cs) = (m.merge c).mergeAll cs := rfl

theorem middleware_mergeAll (m : Manager H υ) (cs : List (Contribution H υ)) :
    (m.mergeAll cs).middleware = m.middleware ++ cs.flatMap (·.middleware) := by
  induction cs generalizing m with
  | nil => exact (List.append_nil _).symm
  | cons c cs ih => rw [mergeAll_cons, ih, merge, List.flatMap_cons, List.append_assoc]

theorem hooks_mergeAll (m : Manager H υ) (cs : List (Contribution H υ)) :
    (m.mergeAll cs).hooks =
      (cs.map (·.registration)).foldl (fun r g ↦ r.register g.pluginId g.bundle) m.hooks := by
  induction cs generalizing m with
  | nil => rfl
  | cons c cs ih => exact ih (m.merge c)

theorem get?_mergeAll {cs : List (Contribution H υ)} (h : Fit m.table cs) {path : String}
    {o : OwnedEndpoint H.Endpoint} :
    (m.mergeAll cs).table.get? path = some o ↔
    (∃ c ∈ cs, c.owned? path = some o) ∨ m.table.get? path = some o := by
  induction cs generalizing m with
  | nil => simp [mergeAll]
  | cons c cs ih =>
    obtain ⟨hc, hcs⟩ := fit_cons.1 h
    rw [mergeAll_cons, ih hcs, merge, get?_addTo_eq_some hc, List.exists_mem_cons_iff, or_left_comm,
      or_assoc]

theorem outcome_addHooks (m : Manager H υ) (id : String) (bundle : Option (HookBundle υ))
    (w : World υ) :
    (m.addHooks id bundle).outcome w =
      (.ok { m with hooks := m.hooks.register id bundle }, w.logged (hookNotes id bundle)) := by
  cases bundle <;> rfl

theorem outcome_addMiddleware (m : Manager H υ) (id : String) (ms : List (Middleware H))
    (w : World υ) :
    (m.addMiddleware id ms).outcome w =
      (.ok { m with middleware := m.middleware ++ ms }, w.logged (middlewareNotes id ms)) := by
  have hnotes : (ms.forM fun a ↦ Effect.log .debug .manager "Middleware collected"
      [("plugin_id", .text id), ("path", .text a.scope), ("priority", .int a.priority)]).outcome w =
      (.ok (), w.logged (middlewareNotes id ms)) := by
    induction ms generalizing w with
    | nil => rfl
    | cons a ms ih =>
      rw [List.forM, Effect.outcome_bind_of_ok (Effect.outcome_log ..), ih, World.logged_logged]
      simp only [middlewareNotes, List.map_cons, List.reverse_cons]
  exact Effect.outcome_bind_of_ok hnotes _

/-- A plugin is not adopted: it does not start, and nothing of it is merged, or it declares a path
that is taken, and exactly its endpoints below the least such path are. -/
inductive Rejects (m : Manager H υ) (ctx : H.Context) (p : Plugin H υ) (w : World υ) :
    Manager H υ → PluginError → World υ → Prop
  | start {fault : Fault} {w' : World υ} :
      (p.start ctx).outcome w = (.ok (.error fault), w') →
      Rejects m ctx p w m (.initialization p.id fault) w'
  | conflict {w₁ w' : World υ} {d : Dict H.Endpoint} {path : String} {o : OwnedEndpoint H.Endpoint} :
      (p.start ctx).outcome w = (.ok (.ok ()), w₁) → p.endpoints.outcome w₁ = (.ok d, w') →
      d.contains path → m.table.get? path = some o →
      (∀ q, q < path → d.contains q → m.table.get? q = none) →
      Rejects m ctx p w { m with table := m.table.withAll p.id (d.entries.filter fun e ↦ e.1 < path) }
        (.endpointConflict path p.id o.owner) w'

theorem contains_of_mem {d : Dict H.Endpoint} {e : String × H.Endpoint} (h : e ∈ d.entries) :
    d.contains e.1 := by
  rw [Dict.contains, (d.mem_entries_iff e.1 e.2).1 h]
  rfl

theorem exists_mem_of_contains {d : Dict H.Endpoint} {path : String} (h : d.contains path) :
    ∃ endpoint, (path, endpoint) ∈ d.entries := by
  obtain ⟨endpoint, he⟩ := Option.isSome_iff_exists.1 h
  exact ⟨endpoint, (d.mem_entries_iff path endpoint).2 he⟩

theorem outcome_adopt_of_given {c : Contribution H υ} (h : Given ctx c w w')
    (hfree : ∀ path, c.endpoints.contains path → m.table.get? path = none) :
    (m.adopt ctx c.plugin).outcome w = (.ok (m.merge c, .ok ()), w') := by
  obtain ⟨hs, he, hb, hm⟩ := h
  have hadd : EndpointTable.addAll c.plugin.id c.endpoints.entries m.table =
      (c.addTo m.table, .ok ()) := by
    rcases EndpointTable.addAll_cases m.table c.plugin.id c.endpoints.ascending
      with ⟨-, h⟩ | ⟨path, e, o, hmem, ho, -⟩
    · exact h
    · rw [hfree path (contains_of_mem hmem)] at ho
      cases ho
  rw [adopt, Effect.outcome_bind_of_ok hs, Effect.outcome_bind_of_ok he, hadd]
  dsimp only
  rw [Effect.outcome_bind_of_ok hb, Effect.outcome_bind_of_ok (outcome_addHooks ..),
    Effect.outcome_bind_of_ok hm,
    Effect.outcome_bind_of_ok (outcome_addMiddleware ..),
      Effect.outcome_bind_of_ok (Effect.outcome_log ..),
    World.logged_logged]
  rfl

theorem adopt_cases {r : Except PluginError Unit} (h : (m.adopt ctx p).outcome w = (.ok (m', r), w')) :
    (∃ c : Contribution H υ, c.plugin = p ∧ Given ctx c w w' ∧
      (∀ path, c.endpoints.contains path → m.table.get? path = none) ∧ m' = m.merge c ∧ r = .ok ()) ∨
    ∃ e, r = .error e ∧ Rejects m ctx p w m' e w' := by
  rw [adopt] at h
  obtain ⟨started, w₁, hs, h⟩ := Effect.outcome_bind_eq_ok.1 h
  cases started with
  | error fault =>
    cases h
    exact .inr ⟨_, rfl, .start hs⟩
  | ok =>
    obtain ⟨d, w₂, he, h⟩ := Effect.outcome_bind_eq_ok.1 h
    rcases EndpointTable.addAll_cases m.table p.id d.ascending
      with ⟨hfree, hadd⟩ | ⟨path, e, o, hmem, ho, hbelow, hadd⟩
    · rw [hadd] at h
      obtain ⟨bundle, w₃, hb, h⟩ := Effect.outcome_bind_eq_ok.1 h
      rw [Effect.outcome_bind_of_ok (outcome_addHooks ..)] at h
      obtain ⟨ms, w₄, hm, h⟩ := Effect.outcome_bind_eq_ok.1 h
      rw [Effect.outcome_bind_of_ok (outcome_addMiddleware ..),
        Effect.outcome_bind_of_ok (Effect.outcome_log ..), World.logged_logged] at h
      cases h
      refine .inl ⟨⟨p, d, bundle, ms⟩, rfl, .intro hs he hb hm, fun path hpath ↦ ?_, rfl, rfl⟩
      obtain ⟨endpoint, hmem⟩ := exists_mem_of_contains hpath
      exact hfree _ hmem
    · rw [hadd] at h
      cases h
      refine .inr ⟨_, rfl, .conflict hs he (contains_of_mem hmem) ho fun q hq hcon ↦ ?_⟩
      obtain ⟨endpoint, hmem⟩ := exists_mem_of_contains hcon
      exact hbelow _ hmem hq

theorem adoptAll_eq_ok_iff {ps : List (Plugin H υ)} :
    (adoptAll ctx ps m).outcome w = (.ok (m', .ok ()), w') ↔
      ∃ cs, cs.map (·.plugin) = ps ∧ Runs (Given ctx) cs w w' ∧ Fit m.table cs ∧
        m' = m.mergeAll cs := by
  induction ps generalizing m w with
  | nil =>
    constructor
    · intro h
      cases h
      exact ⟨[], rfl, .nil _, ⟨by simp, .nil⟩, rfl⟩
    · rintro ⟨cs, hcs, hruns, -, rfl⟩
      obtain rfl := List.map_eq_nil_iff.1 hcs
      cases hruns
      rfl
  | cons p ps ih =>
    constructor
    · intro h
      rw [adoptAll] at h
      obtain ⟨⟨m₁, r⟩, w₁, hp, h⟩ := Effect.outcome_bind_eq_ok.1 h
      rcases adopt_cases hp with ⟨c, rfl, hc, hfree, rfl, rfl⟩ | ⟨e, rfl, -⟩
      · obtain ⟨cs, rfl, hruns, hfit, rfl⟩ := ih.1 h
        exact ⟨c :: cs, rfl, .cons hc hruns, fit_cons.2 ⟨hfree, hfit⟩, rfl⟩
      · cases h
    · rintro ⟨cs, hcs, hruns, hfit, rfl⟩
      cases hruns with
      | nil => cases hcs
      | cons hc hruns =>
        obtain ⟨rfl, rfl⟩ := List.cons.inj hcs
        obtain ⟨hfree, hfit⟩ := fit_cons.1 hfit
        rw [adoptAll, Effect.outcome_bind_of_ok (outcome_adopt_of_given hc hfree)]
        exact ih.2 ⟨_, rfl, hruns, hfit, rfl⟩

/-- An error is that of the first plugin that is rejected; all before it are merged, none behind it
is started. -/
theorem adoptAll_eq_error {ps : List (Plugin H υ)} {e : PluginError}
    (h : (adoptAll ctx ps m).outcome w = (.ok (m', .error e), w')) :
    ∃ cs p rest w₁, ps = cs.map (·.plugin) ++ p :: rest ∧ Runs (Given ctx) cs w w₁ ∧ Fit m.table cs ∧
      Rejects (m.mergeAll cs) ctx p w₁ m' e w' := by
  induction ps generalizing m w with
  | nil => cases h
  | cons p ps ih =>
    rw [adoptAll] at h
    obtain ⟨⟨m₁, r⟩, w₁, hp, h⟩ := Effect.outcome_bind_eq_ok.1 h
    rcases adopt_cases hp with ⟨c, rfl, hc, hfree, rfl, rfl⟩ | ⟨e', rfl, hrej⟩
    · obtain ⟨cs, p, rest, w₂, rfl, hruns, hfit, hrej⟩ := ih h
      exact ⟨c :: cs, p, rest, w₂, rfl, .cons hc hruns, fit_cons.2 ⟨hfree, hfit⟩, hrej⟩
    · cases h
      exact ⟨[], p, ps, w, rfl, .nil w, ⟨by simp, .nil⟩, hrej⟩

end Manager

end FrontDoor
