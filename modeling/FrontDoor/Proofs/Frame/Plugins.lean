import FrontDoor.Proofs.Frame.Cells

namespace FrontDoor

variable {H : Host} {υ α β : Type} {c : Cell υ α} {w w' w₁ w₂ : World υ}

theorem flatMap_middle_perm (f : α → List β) (xs : List α) (a : α) (ys : List α) :
    ((xs ++ a :: ys).flatMap f).Perm (f a ++ (xs ++ ys).flatMap f) := by
  rw [List.flatMap_append, List.flatMap_cons, List.flatMap_append, ← List.append_assoc,
    ← List.append_assoc]
  exact List.perm_append_comm.append_right _

theorem exists_middle_of_perm {l others : List α} {a : α} (h : l.Perm (a :: others)) :
    ∃ before behind, l = before ++ a :: behind ∧ (before ++ behind).Perm others := by
  obtain ⟨before, behind, rfl⟩ := List.append_of_mem (h.mem_iff.2 List.mem_cons_self)
  exact ⟨before, behind, rfl, (List.perm_middle.symm.trans h).cons_inv⟩

namespace PhaseHooks

theorem flatMap_extend_perm (id : String) (hooks : List (Hook υ)) (entries : PhaseHooks υ) :
    ((extend id hooks entries).flatMap (·.hooks)).Perm (entries.flatMap (·.hooks) ++ hooks) := by
  induction entries with
  | nil => simp [extend]
  | cons e entries ih =>
    rw [extend]
    split
    · rw [List.flatMap_cons, List.flatMap_cons, List.append_assoc, List.append_assoc]
      exact List.perm_append_comm.append_left _
    · rw [List.flatMap_cons, List.flatMap_cons, List.append_assoc]
      exact ih.append_left _

theorem flatMap_append_perm (entries : PhaseHooks υ) (id : String) (hooks : List (Hook υ)) :
    ((entries.append id hooks).flatMap (·.hooks)).Perm (entries.flatMap (·.hooks) ++ hooks) := by
  rw [append]
  split
  · rename_i hempty
    rw [List.isEmpty_iff.1 hempty, List.append_nil]
  · exact flatMap_extend_perm id hooks entries

end PhaseHooks

namespace HookRegistry

theorem map_hook_placed (r : HookRegistry υ) (p : Phase) :
    (r.placed p).map (·.hook) = (r.phase p).flatMap (·.hooks) := by
  rw [placed, List.map_flatMap]
  congr 1
  funext e
  rw [PlacedHook.row, List.map_map]
  exact List.zipIdx_map_fst 0 e.hooks

theorem map_hook_placed_perm (h : History υ) (p : Phase) :
    (((ofHistory h).placed p).map (·.hook)).Perm (h.flatMap fun g ↦ g.hooks p) := by
  rw [map_hook_placed]
  induction h using List.reverseRecOn with
  | nil => cases p <;> exact .nil
  | append_singleton h g ih =>
    rw [ofHistory_concat, phase_register, List.flatMap_append, List.flatMap_singleton]
    exact (PhaseHooks.flatMap_append_perm _ _ _).trans (ih.append_right _)

end HookRegistry

/-- A plugin that keeps a cell while it starts and while its contributions are read. -/
structure Plugin.Keeps (c : Cell υ α) (p : Plugin H υ) : Prop where
  start : ∀ ctx, (p.start ctx).Keeps c
  endpoints : p.endpoints.Keeps c
  hooks : p.hooks.Keeps c
  middleware : p.middleware.Keeps c

namespace Contribution

theorem Given.kept {ctx : H.Context} {a : Contribution H υ} (h : Given ctx a w w')
    (hp : a.plugin.Keeps c) :
    c.Kept w w' := by
  obtain ⟨hs, he, hb, hm⟩ := h
  have hread := (((hp.start ctx).kept hs).trans (hp.endpoints.kept he)).trans (hp.hooks.kept hb)
  have hlast := (c.kept_logged _ (hookNotes a.plugin.id a.hooks)).trans (hp.middleware.kept hm)
  exact (hread.trans hlast).trans (c.kept_logged _ _)

theorem kept_of_runs {ctx : H.Context} {as : List (Contribution H υ)} (h : Runs (Given ctx) as w w')
    (has : ∀ a ∈ as, a.plugin.Keeps c) : c.Kept w w' :=
  h.kept fun a ha _ _ hgiven ↦ hgiven.kept (has a ha)

theorem exists_given_of_mem {ctx : H.Context} {as : List (Contribution H υ)}
    (h : Runs (Given ctx) as w w') {a : Contribution H υ} (ha : a ∈ as) :
    ∃ w₁ w₂, Given ctx a w₁ w₂ := by
  induction h with
  | nil => cases ha
  | cons hs _ ih =>
    rcases List.mem_cons.1 ha with rfl | ha
    · exact ⟨_, _, hs⟩
    · exact ih ha

end Contribution

namespace Manager

open Contribution

variable {ctx : H.Context} {m : Manager H υ}

theorem exists_split_of_start {before after : PluginList H υ} {p : Plugin H υ}
    (hstart : ((ofPlugins (before ++ p :: after)).start ctx).outcome w = (.ok (m, .ok ()), w')) :
    ∃ earlier own later w₁ w₂ v, earlier.map (·.plugin) = before ∧ own.plugin = p ∧
      later.map (·.plugin) = after ∧
      Runs (Given ctx) earlier w w₁ ∧ Given ctx own w₁ w₂ ∧ Runs (Given ctx) later w₂ v ∧
      (∃ events, w' = v.logged events) ∧ m.Serves (earlier ++ own :: later) ∧
      m.hooks = .ofHistory ((earlier ++ own :: later).map (·.registration)) := by
  obtain ⟨m₁, v, hadopt, rfl, hw'⟩ := outcome_start_eq_ok.1 hstart
  obtain ⟨cs, hcs, hruns, hfit, rfl⟩ := adoptAll_eq_ok_iff.1 hadopt
  obtain ⟨earlier, rest, rfl, hearlier, hrest⟩ := List.map_eq_append_iff.1 hcs
  obtain ⟨own, later, rfl, hown, hlater⟩ := List.map_eq_cons_iff.1 hrest
  obtain ⟨w₁, hbefore, hmiddle⟩ := hruns.of_append
  cases hmiddle with
  | @cons _ _ _ w₂ _ hgiven hafter =>
    refine ⟨earlier, own, later, w₁, w₂, v, hearlier, hown, hlater, hbefore, hgiven, hafter,
      ⟨_, hw'⟩, ?_, hooks_ofPlugins_mergeAll _ _⟩
    refine serves_of_table rfl (fun path o ↦ get?_ofPlugins_mergeAll hfit.noSharedPath)
      (hooks_ofPlugins_mergeAll _ _) ?_
    exact congrArg sortByPriority (middleware_mergeAll (ofPlugins _) _)

theorem outcome_adoptAll_append {cs : List (Contribution H υ)} (hruns : Runs (Given ctx) cs w w₁)
    (hfit : Fit m.table cs) (rest : List (Plugin H υ)) :
    (adoptAll ctx (cs.map (·.plugin) ++ rest) m).outcome w =
      (adoptAll ctx rest (m.mergeAll cs)).outcome w₁ := by
  induction hruns generalizing m with
  | nil => rfl
  | cons hgiven _ ih =>
    obtain ⟨hfree, hrest⟩ := fit_cons.1 hfit
    rw [List.map_cons, List.cons_append, adoptAll,
      Effect.outcome_bind_of_ok (outcome_adopt_of_given hgiven hfree)]
    exact ih hrest

theorem outcome_adopt_of_start_error {p : Plugin H υ} {fault : Fault}
    (h : (p.start ctx).outcome w = (.ok (.error fault), w₁)) :
    (m.adopt ctx p).outcome w = (.ok (m, .error (.initialization p.id fault)), w₁) := by
  rw [adopt, Effect.outcome_bind_of_ok h]
  rfl

theorem failsAt_of_start_error {before : PluginList H υ} {p : Plugin H υ}
    {cs : List (Contribution H υ)} (hcs : Contributed ctx before w cs)
    (hruns : Runs (Given ctx) cs w w₁) {fault : Fault}
    (hfault : (p.start ctx).outcome w₁ = (.ok (.error fault), w₂)) (after : PluginList H υ) :
    ∃ m, ((ofPlugins (before ++ p :: after)).start ctx).outcome w =
      (.ok (m, .error (.initialization p.id fault)), w₂) ∧
      FailsAt ctx (before ++ p :: after) w before.length m (.initialization p.id fault) w₂ := by
  obtain ⟨rfl, -, hshared⟩ := hcs
  have hfit : Fit (ofPlugins (cs.map (·.plugin) ++ p :: after)).table cs := fit_empty_iff.2 hshared
  have hadopt : (adoptAll ctx (cs.map (·.plugin) ++ p :: after)
      (ofPlugins (cs.map (·.plugin) ++ p :: after))).outcome w =
      (.ok ((ofPlugins (cs.map (·.plugin) ++ p :: after)).mergeAll cs,
        .error (.initialization p.id fault)), w₂) := by
    rw [outcome_adoptAll_append hruns hfit, adoptAll,
      Effect.outcome_bind_of_ok (outcome_adopt_of_start_error hfault)]
    rfl
  refine ⟨_, outcome_start_eq_error.2 ⟨_, hadopt, rfl⟩, ?_⟩
  rw [List.length_map]
  exact failsAt_of_rejects rfl hruns hshared (.start hfault)

end Manager

namespace Http

def Intercepts (c : Cell υ α) (mw : Middleware (host υ)) : Prop :=
  ∃ i : Interceptor υ, (∀ r, applied mw r = r.layer i.layer) ∧ i.Keeps c

/-- A contribution whose services and hooks keep a cell, and whose middleware is of this kind. -/
structure KeepsAll (c : Cell υ α) (kind : Middleware (host υ) → Prop)
    (a : Contribution (host υ) υ) : Prop where
  endpoints : ∀ path t, a.endpoints.get? path = some t → t.Keeps c
  hooks : ∀ p, ∀ h ∈ a.registration.hooks p, h.Keeps c
  middleware : ∀ mw ∈ a.middleware, kind mw

/-- A plugin that has nothing to do with a cell: neither it nor any service or hook that it
contributes ever touches it, and its middleware is of this kind. -/
structure Foreign (c : Cell υ α) (kind : Middleware (host υ) → Prop) (p : Plugin (host υ) υ) :
    Prop where
  keeps : p.Keeps c
  keepsAll : ∀ (ctx : (host υ).Context) a w w', a.plugin = p → Contribution.Given ctx a w w' →
    KeepsAll c kind a

theorem Foreign.imp {kind kind' : Middleware (host υ) → Prop} {p : Plugin (host υ) υ}
    (h : Foreign c kind p) (hkind : ∀ mw, kind mw → kind' mw) : Foreign c kind' p where
  keeps := h.keeps
  keepsAll ctx a w w' hplugin hgiven := by
    obtain ⟨hendpoints, hhooks, hmiddleware⟩ := h.keepsAll ctx a w w' hplugin hgiven
    exact ⟨hendpoints, hhooks, fun mw hmw ↦ hkind mw (hmiddleware mw hmw)⟩

/-- A manager serves a contribution, and beside it nothing but what keeps a cell and middleware of
this kind. -/
structure Hosts (c : Cell υ α) (kind : Middleware (host υ) → Prop) (m : Manager (host υ) υ)
    (own : Contribution (host υ) υ) : Prop where
  endpoint : ∀ path o, m.table.get? path = some o →
    o.endpoint.Keeps c ∨ own.endpoints.get? path = some o.endpoint
  own_endpoint : ∀ path t, own.endpoints.get? path = some t →
    ∃ o, m.table.get? path = some o ∧ o.endpoint = t
  hooks : ∀ p, ∃ others, ((m.hooks.placed p).map (·.hook)).Perm (own.registration.hooks p ++ others) ∧
    ∀ h ∈ others, h.Keeps c
  middleware : ∃ others, m.middleware.Perm (own.middleware ++ others) ∧ ∀ mw ∈ others, kind mw

section

open Manager Contribution

variable {m : Manager (host υ) υ} {ctx : (host υ).Context} {kind : Middleware (host υ) → Prop}
  {earlier later : List (Contribution (host υ) υ)} {own : Contribution (host υ) υ}

theorem hosts_of_serves (hserves : m.Serves (earlier ++ own :: later))
    (hhooks : m.hooks = .ofHistory ((earlier ++ own :: later).map (·.registration)))
    (hothers : ∀ a ∈ earlier ++ later, KeepsAll c kind a) : Hosts c kind m own where
  endpoint path o ho := by
    have hget : m.endpoints.get? path = some o.endpoint := by
      rw [Manager.endpoints, EndpointTable.get?_endpoints, ho]
      rfl
    obtain ⟨a, ha, hpath⟩ := (hserves.endpoints path o.endpoint).1 hget
    rcases List.mem_append.1 ha with ha | ha
    · exact .inl ((hothers a (List.mem_append_left _ ha)).endpoints path _ hpath)
    · rcases List.mem_cons.1 ha with rfl | ha
      · exact .inr hpath
      · exact .inl ((hothers a (List.mem_append_right _ ha)).endpoints path _ hpath)
  own_endpoint path t ht := by
    have hown : own ∈ earlier ++ own :: later := List.mem_append_right _ List.mem_cons_self
    have hget := (hserves.endpoints path t).2 ⟨own, hown, ht⟩
    rw [Manager.endpoints, EndpointTable.get?_endpoints, Option.map_eq_some_iff] at hget
    exact hget
  hooks p := by
    refine ⟨(earlier ++ later).flatMap fun a ↦ a.registration.hooks p, ?_, fun h hh ↦ ?_⟩
    · rw [hhooks]
      have hperm := HookRegistry.map_hook_placed_perm
          ((earlier ++ own :: later).map (·.registration)) p
      rw [List.flatMap_map] at hperm
      exact hperm.trans (flatMap_middle_perm (fun a ↦ a.registration.hooks p) earlier own later)
    · obtain ⟨a, ha, hmem⟩ := List.mem_flatMap.1 hh
      exact (hothers a ha).hooks p h hmem
  middleware := by
    refine ⟨(earlier ++ later).flatMap (·.middleware), ?_, fun mw hmw ↦ ?_⟩
    · exact hserves.permutation.trans (flatMap_middle_perm (·.middleware) earlier own later)
    · obtain ⟨a, ha, hmem⟩ := List.mem_flatMap.1 hmw
      exact (hothers a ha).middleware mw hmem

/-- Let a manager of a plugin and others that are foreign to a cell start. The plugin finds the cell
as it was before, the others leave it as the plugin left it, and beside what the plugin contributes
all that is served keeps it. -/
theorem hosts_of_start {before after : PluginList (host υ) υ} {p : Plugin (host υ) υ}
    (hforeign : ∀ q ∈ before ++ after, Foreign c kind q)
    (hstart : ((ofPlugins (before ++ p :: after)).start ctx).outcome w = (.ok (m, .ok ()), w')) :
    ∃ own w₁ w₂, own.plugin = p ∧ Given ctx own w₁ w₂ ∧ c.Kept w w₁ ∧ c.Kept w₂ w' ∧
      Hosts c kind m own := by
  obtain ⟨earlier, own, later, w₁, w₂, v, rfl, hown, rfl, hbefore, hgiven, hafter, ⟨events, rfl⟩,
      hserves, hhooks⟩ :=
    exists_split_of_start hstart
  have hothers {a : Contribution (host υ) υ} (ha : a ∈ earlier ++ later) :
      Foreign c kind a.plugin := by
    refine hforeign _ ?_
    rw [← List.map_append]
    exact List.mem_map_of_mem ha
  have hkept₁ : c.Kept w w₁ :=
    kept_of_runs hbefore fun a ha ↦ (hothers (List.mem_append_left _ ha)).keeps
  have hkept₂ : c.Kept w₂ v :=
    kept_of_runs hafter fun a ha ↦ (hothers (List.mem_append_right _ ha)).keeps
  have hkeeps (a : Contribution (host υ) υ) (ha : a ∈ earlier ++ later) : KeepsAll c kind a := by
    obtain ⟨v₁, v₂, hgivenA⟩ : ∃ v₁ v₂, Given ctx a v₁ v₂ := by
      rcases List.mem_append.1 ha with hmem | hmem
      · exact exists_given_of_mem hbefore hmem
      · exact exists_given_of_mem hafter hmem
    exact (hothers ha).keepsAll ctx a v₁ v₂ rfl hgivenA
  exact ⟨own, w₁, w₂, hown, hgiven, hkept₁, hkept₂.trans (c.kept_logged _ _),
    hosts_of_serves hserves hhooks hkeeps⟩

end

end Http

end FrontDoor
