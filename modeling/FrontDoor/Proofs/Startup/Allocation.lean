import FrontDoor.Proofs.Assembly.Answering
import FrontDoor.Proofs.Manager.Lifecycle
import FrontDoor.Proofs.Startup.BuiltIn

namespace FrontDoor

variable {H : Host} {υ α β : Type} {w w' : World υ}

theorem Effect.Returns.bind {x : Effect υ α} {f : α → Effect υ β} (hx : x.Returns)
    (hf : ∀ a, (f a).Returns) :
    (x >>= f).Returns := by
  intro w
  obtain ⟨a, w₁, ha⟩ := hx w
  obtain ⟨b, w₂, hb⟩ := hf a w₁
  exact ⟨b, w₂, Effect.outcome_bind_eq_ok.2 ⟨a, w₁, ha, hb⟩⟩

/-- A plugin that never aborts while it starts in a context and while its contributions are read. -/
structure Plugin.Returns (ctx : H.Context) (p : Plugin H υ) : Prop where
  start : (p.start ctx).Returns
  endpoints : p.endpoints.Returns
  hooks : p.hooks.Returns
  middleware : p.middleware.Returns

namespace Manager

open Contribution

variable {ctx : H.Context} {m m' : Manager H υ} {p : Plugin H υ} {ps : PluginList H υ}

theorem returns_adopt (h : p.Returns ctx) (m : Manager H υ) : (m.adopt ctx p).Returns := by
  rw [adopt]
  refine h.start.bind fun started ↦ ?_
  cases started with
  | error fault => exact Effect.returns_pure _
  | ok _ =>
    refine h.endpoints.bind fun d ↦ ?_
    dsimp only
    cases (EndpointTable.addAll p.id d.entries m.table).2 with
    | error e => exact Effect.returns_pure _
    | ok _ =>
      refine h.hooks.bind fun bundle ↦ .bind (fun w ↦ ⟨_, _, outcome_addHooks ..⟩) fun m₁ ↦ ?_
      refine h.middleware.bind fun ms ↦ .bind (fun w ↦ ⟨_, _, outcome_addMiddleware ..⟩) fun m₂ ↦ ?_
      exact .bind (fun w ↦ ⟨_, _, Effect.outcome_log ..⟩) fun _ ↦ Effect.returns_pure _

theorem returns_adoptAll (h : ∀ p ∈ ps, p.Returns ctx) (m : Manager H υ) :
    (adoptAll ctx ps m).Returns := by
  induction ps generalizing m with
  | nil => exact Effect.returns_pure _
  | cons p ps ih =>
    rw [adoptAll]
    refine (returns_adopt (h p List.mem_cons_self) m).bind fun adopted ↦ ?_
    rcases adopted with ⟨m₁, e | _⟩
    · exact Effect.returns_pure _
    · exact ih (fun q hq ↦ h q (List.mem_cons_of_mem p hq)) m₁

theorem outcome_adoptAll_append_of_error {e : PluginError}
    (h : (adoptAll ctx ps m).outcome w = (.ok (m', .error e), w')) (rest : PluginList H υ) :
    (adoptAll ctx (ps ++ rest) m).outcome w = (.ok (m', .error e), w') := by
  induction ps generalizing m w with
  | nil => cases h
  | cons p ps ih =>
    rw [adoptAll] at h
    rw [List.cons_append, adoptAll]
    obtain ⟨⟨m₁, r⟩, w₁, hp, h⟩ := Effect.outcome_bind_eq_ok.1 h
    rw [Effect.outcome_bind_of_ok hp]
    cases r with
    | error e' => exact h
    | ok _ => exact ih h

/-- A manager over these plugins ends initialized, or failed with the error that it reports. -/
def Ends (ps : PluginList H υ) (ctx : H.Context) (w : World υ) : Prop :=
  ∃ m result w', ((ofPlugins ps).start ctx).outcome w = (.ok (m, result), w') ∧
    ((m.state = .initialized ∧ result = .ok ()) ∨ (m.state = .failed ∧ ∃ e, result = .error e))

theorem ends_of_adoptAll {result : Except PluginError Unit}
    (h : (adoptAll ctx ps (ofPlugins ps)).outcome w = (.ok (m, result), w')) : Ends ps ctx w := by
  cases result with
  | error e =>
    have hstart := outcome_start_eq_error.2 ⟨m, h, rfl⟩
    exact ⟨_, _, w', hstart, start_cases hstart⟩
  | ok _ =>
    have hstart := outcome_start_eq_ok.2 ⟨m, w', h, rfl, rfl⟩
    exact ⟨_, _, _, hstart, start_cases hstart⟩

theorem ends_of_returns (h : ∀ p ∈ ps, p.Returns ctx) (w : World υ) : Ends ps ctx w := by
  obtain ⟨⟨m, result⟩, w', hadopt⟩ := returns_adoptAll h (ofPlugins ps) w
  exact ends_of_adoptAll hadopt

theorem ends_of_not_contributed {before : PluginList H υ} (h : ∀ p ∈ before, p.Returns ctx)
    (hnone : ¬ ∃ cs, Contributed ctx before w cs) (rest : PluginList H υ) :
    Ends (before ++ rest) ctx w := by
  obtain ⟨⟨m, result⟩, w', hadopt⟩ := returns_adoptAll h (ofPlugins (before ++ rest)) w
  cases result with
  | error e => exact ends_of_adoptAll (outcome_adoptAll_append_of_error hadopt rest)
  | ok _ =>
    -- A manager that accepted all of them would have all their contributions.
    obtain ⟨cs, hcs, hruns, hfit, -⟩ := adoptAll_eq_ok_iff.1 hadopt
    exact absurd ⟨cs, hcs, ⟨w', hruns⟩, hfit.noSharedPath⟩ hnone

theorem outcome_start_of_abort {before : PluginList H υ} {cs : List (Contribution H υ)} {w₁ : World υ}
    {reason : Abort} (hcs : Contributed ctx before w cs) (hruns : Runs (Given ctx) cs w w₁)
    (habort : (p.start ctx).outcome w₁ = (.error reason, w')) (after : PluginList H υ) :
    ((ofPlugins (before ++ p :: after)).start ctx).outcome w = (.error reason, w') := by
  obtain ⟨rfl, -, hshared⟩ := hcs
  have hfit : Fit (ofPlugins (cs.map (·.plugin) ++ p :: after)).table cs := fit_empty_iff.2 hshared
  rw [start, if_neg (by simp [ofPlugins])]
  refine Effect.outcome_bind_of_error ?_ _
  have hsplit := outcome_adoptAll_append hruns hfit (p :: after)
  refine hsplit.trans (Effect.outcome_bind_of_error ?_ _)
  rw [adopt]
  exact Effect.outcome_bind_of_error habort _

end Manager

open Http Manager Contribution

theorem RateLimit.returns_plugin (cell : Cell υ (Option Active)) (config : Config.AppConfig) :
    (plugin cell).Returns (H := host υ) config where
  start w := by
    obtain ⟨result, w', houtcome, -⟩ := exists_tries cell config w
    exact ⟨result, w', houtcome⟩
  endpoints w := ⟨_, _, outcome_endpoints cell w⟩
  hooks := Effect.returns_pure _
  middleware w := ⟨_, _, outcome_middleware cell w⟩

namespace Audit

variable {cell : Cell υ (Option Log)} {config : Config.AppConfig}

theorem returns_plugin (h : ¬ Exceeds config) (cell : Cell υ (Option Log)) :
    (plugin cell).Returns (H := host υ) config where
  start w := by
    obtain ⟨result, w', houtcome, -⟩ := exists_tries h cell w
    exact ⟨result, w', houtcome⟩
  endpoints w := ⟨_, _, outcome_endpoints cell w⟩
  hooks w := ⟨_, _, outcome_hooks cell w⟩
  middleware := Effect.returns_pure _

/-- How a plugin without a log comes through its start: with an empty log of the capacity that is
configured, or with an error and none. -/
def Settled (cell : Cell υ (Option Log)) (config : Config.AppConfig) (w : World υ) : Prop :=
  (∃ t w', config.settings pluginId Settings.ofJson {} = .ok t ∧
    (startPlugin cell config).outcome w = (.ok (.ok ()), w') ∧
      cell.read w'.store = some ⟨[], t.capacity⟩) ∨
  ∃ fault w', (startPlugin cell config).outcome w = (.ok (.error fault), w') ∧
    cell.read w'.store = none

theorem settled_of_not_exceeds (h : ¬ Exceeds config) (hfresh : cell.read w.store = none) :
    Settled cell config w := by
  obtain ⟨result, w', houtcome, htries⟩ := exists_tries h cell w
  cases htries with
  | accepted haccepted _ hread =>
    exact .inl ⟨_, w', (accepted?_eq_some_iff.1 haccepted).1, houtcome, hread⟩
  | refused => exact .inr ⟨_, _, houtcome, hfresh⟩

/-- Let all other plugins of a manager return. Then it ends initialized or failed, unless its
configuration asks for a log whose memory cannot be reserved and all plugins before the audit plugin
contribute; then it aborts there. A plugin without a log comes through its start with the log that
is configured or an error, unless its memory cannot be reserved; then it aborts without a log. -/
theorem startup_ends_iff (cell : Cell υ (Option Log)) (before after : PluginList (host υ) υ)
    (config : Config.AppConfig) (w : World υ)
    (hothers : ∀ p ∈ before ++ after, p.Returns (H := host υ) config) :
    (Ends (H := host υ) (before ++ plugin cell :: after) config w ↔
      ¬ (Exceeds config ∧ ∃ cs, Contributed (H := host υ) config before w cs)) ∧
    (Exceeds config → ∀ cs, Contributed (H := host υ) config before w cs →
      ∃ w', Runs (Given (H := host υ) config) cs w w' ∧
      ((ofPlugins (before ++ plugin cell :: after)).start config).outcome w =
        (.error .capacityOverflow, w')) ∧
    ∀ v, cell.read v.store = none → (¬ Exceeds config → Settled cell config v) ∧
      (Exceeds config → (startPlugin cell config).outcome v = (.error .capacityOverflow, v)) := by
  have haborts (hexceeds : Exceeds config) (cs) (hcs : Contributed (H := host υ) config before w cs) :
      ∃ w', Runs (Given (H := host υ) config) cs w w' ∧
        ((ofPlugins (before ++ plugin cell :: after)).start config).outcome w =
          (.error .capacityOverflow, w') := by
    obtain ⟨w', hruns⟩ := hcs.given
    have habort : ((plugin cell).start config).outcome w' = (.error .capacityOverflow, w') :=
      outcome_startPlugin_of_exceeds hexceeds cell w'
    exact ⟨w', hruns, outcome_start_of_abort hcs hruns habort after⟩
  refine ⟨⟨?_, fun hnot ↦ ?_⟩, haborts, fun v hfresh ↦ ⟨fun h ↦ settled_of_not_exceeds h hfresh,
    fun h ↦ outcome_startPlugin_of_exceeds h cell v⟩⟩
  · rintro ⟨m, result, w', hstart, -⟩ ⟨hexceeds, cs, hcs⟩
    obtain ⟨w₁, -, habort⟩ := haborts hexceeds cs hcs
    cases habort.symm.trans hstart
  · by_cases hexceeds : Exceeds config
    · have hbefore (p : Plugin (host υ) υ) (hp : p ∈ before) : p.Returns (H := host υ) config :=
        hothers p (List.mem_append_left _ hp)
      exact ends_of_not_contributed hbefore (fun hcs ↦ hnot ⟨hexceeds, hcs⟩) _
    · refine ends_of_returns (fun p hp ↦ ?_) w
      rcases List.mem_append.1 hp with hp | hp
      · exact hothers p (List.mem_append_left _ hp)
      · rcases List.mem_cons.1 hp with rfl | hp
        · exact returns_plugin hexceeds cell
        · exact hothers p (List.mem_append_right _ hp)

theorem startup_ends_iff_built_in :
    let w : World Server.Memory := World.start {}
    let config := configFor 60 2
    let vast := configFor 60 (2 ^ 63)
    let before := [RateLimit.plugin Server.limiterCell]
    (∀ p ∈ before ++ [], p.Returns (H := host Server.Memory) config) ∧
    (∀ p ∈ before ++ [], p.Returns (H := host Server.Memory) vast) ∧
    Server.auditCell.read w.store = none ∧
    ¬ Exceeds config ∧ Ends (H := host Server.Memory) Server.builtIn config w ∧
    Exceeds vast ∧ ¬ Ends (H := host Server.Memory) Server.builtIn vast w ∧
    ∃ w', ((ofPlugins Server.builtIn).start vast).outcome w = (.error .capacityOverflow, w') := by
  intro w config vast before
  have hreturns (c : Config.AppConfig) :
      ∀ p ∈ before ++ [], p.Returns (H := host Server.Memory) c := by
    intro p hp
    rw [List.append_nil] at hp
    rw [List.mem_singleton.1 hp]
    exact RateLimit.returns_plugin Server.limiterCell c
  have hfits : ¬ Exceeds config := not_exceeds_of_settings (t := ⟨2⟩) rfl (by decide)
  have hexceeds : Exceeds vast := ⟨⟨2 ^ 63⟩, rfl, by decide⟩
  obtain ⟨m, w', hstart⟩ : ∃ m w', ((ofPlugins before).start vast).outcome w = (.ok (m, .ok ()), w') :=
    ⟨_, _, rfl⟩
  obtain ⟨cs, hcs, -⟩ := exists_serves_of_start hstart
  obtain ⟨hends, -, -⟩ := startup_ends_iff Server.auditCell before [] config w (hreturns config)
  obtain ⟨hnotEnds, haborts, -⟩ := startup_ends_iff Server.auditCell before [] vast w (hreturns vast)
  obtain ⟨w₁, -, habort⟩ := haborts hexceeds cs hcs
  exact ⟨hreturns config, hreturns vast, rfl, hfits, hends.2 fun h ↦ hfits h.1, hexceeds,
    fun h ↦ hnotEnds.1 h ⟨hexceeds, cs, hcs⟩, w₁, habort⟩

/-- A configuration that is read without complaint, with which neither the plugin nor a manager of
it comes through its start. -/
theorem huge_capacity_aborts :
    let w : World Server.Memory := World.start {}
    ∃ config, Config.AppConfig.fromToml "[plugins.settings.audit]\ncapacity = 9223372036854775807\n" =
      .ok config ∧
      config.settings pluginId Settings.ofJson {} = .ok ⟨9223372036854775807⟩ ∧
      Server.auditCell.read w.store = none ∧
      (startPlugin Server.auditCell config).outcome w = (.error .capacityOverflow, w) ∧
      ((ofPlugins [plugin Server.auditCell]).start config).outcome w =
        (.error .capacityOverflow, w) := by
  intro w
  have hread : (Config.AppConfig.fromToml
      "[plugins.settings.audit]\ncapacity = 9223372036854775807\n").toOption.map
      (fun config ↦ (config.settings pluginId Settings.ofJson {}).toOption.map (·.capacity)) =
      some (some 9223372036854775807) := by decide +kernel
  obtain ⟨config, haccepted, hcapacity⟩ := exists_ok_of_toOption hread
  obtain ⟨⟨_⟩, hsettings, rfl⟩ := exists_ok_of_toOption hcapacity
  have hexceeds : Exceeds config := ⟨_, hsettings, by decide⟩
  have hstart := outcome_startPlugin_of_exceeds hexceeds Server.auditCell w
  have hnone : Contributed (H := host Server.Memory) config [] w [] := ⟨rfl, ⟨w, .nil w⟩, .nil⟩
  exact ⟨config, haccepted, hsettings, rfl, hstart, outcome_start_of_abort hnone (.nil w) hstart []⟩

end Audit

end FrontDoor
