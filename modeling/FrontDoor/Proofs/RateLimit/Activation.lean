import FrontDoor.Proofs.Frame.BuiltIn

namespace FrontDoor.RateLimit

open Http Manager Contribution

variable {υ : Type} {cell : Cell υ (Option Active)} {s : Settings} {w v w' : World υ}
  {config : Config.AppConfig}

theorem validate_eq_ok_iff (s : Settings) :
    s.validate = .ok () ↔
    s.maxTokens ≠ 0 ∧ s.refillPerSecond.isFinite = true ∧ ¬ s.refillPerSecond < 0.0 := by
  rw [Settings.validate]
  by_cases hzero : s.maxTokens = 0
  · simp [hzero]
  · by_cases hrate : !s.refillPerSecond.isFinite || s.refillPerSecond < 0.0
    · have hbad : ¬ (s.refillPerSecond.isFinite = true ∧ ¬ s.refillPerSecond < 0.0) := by
        rintro ⟨hfinite, hnonneg⟩
        simp [hfinite, hnonneg] at hrate
      simp [hzero, hrate, hbad]
    · have hgood : s.refillPerSecond.isFinite = true ∧ ¬ s.refillPerSecond < 0.0 := by
        simpa using hrate
      simp [hzero, hgood]

/-- Settings are in effect: the limiter has their limits and no buckets yet, and the plugin
contributes its endpoint, and its middleware in their scope with their priority. -/
structure InEffect (cell : Cell υ (Option Active)) (s : Settings) (w : World υ) : Prop where
  active : cell.read w.store = some ⟨s, .empty⟩
  limits : s.limits = ⟨s.maxTokens, s.refillPerSecond, max s.pruneEvery 1⟩
  endpoints : (plugin cell).endpoints.outcome w = (.ok (statusEndpoints cell), w)
  middleware : (plugin cell).middleware.outcome w = (.ok [limiting cell s], w)

theorem inEffect_of_read (h : cell.read w.store = some ⟨s, .empty⟩) : InEffect cell s w where
  active := h
  limits := rfl
  endpoints := by
    rw [outcome_endpoints, h]
    rfl
  middleware := by
    rw [outcome_middleware, h]
    rfl

theorem outcome_activate (hvalid : s.validate = .ok ()) (hfresh : cell.read w.store = none) :
    (activate cell s).outcome w = (.ok (.ok ()), cell.put (some ⟨s, .empty⟩) w) := by
  rw [activate, hvalid]
  dsimp only
  rw [Effect.outcome_bind_of_ok (cell.outcome_get w), hfresh]
  rfl

theorem outcome_activate_of_active {a : Active} (hactive : cell.read w.store = some a) {t : Settings}
    (hvalid : t.validate = .ok ()) :
    (activate cell t).outcome w =
      (.ok (.error ⟨.plugin, "Rate limit plugin is already initialized", []⟩), w) := by
  rw [activate, hvalid]
  dsimp only
  rw [Effect.outcome_bind_of_ok (cell.outcome_get w), hactive]
  rfl

theorem outcome_activate_of_invalid {t : Settings} {e : SettingsError}
    (hinvalid : t.validate = .error e) :
    (activate cell t).outcome w =
      (.ok (.error ⟨.configuration, "Invalid rate limit settings: " ++ e.text, [e.text]⟩), w) := by
  rw [activate, hinvalid]
  rfl

theorem active_of_startPlugin (h : (startPlugin cell config).outcome w = (.ok (.ok ()), w')) :
    ∃ t, config.settings pluginId Settings.ofJson {} = .ok t ∧ t.validate = .ok () ∧
      cell.read w.store = none ∧
      cell.read w'.store = some ⟨t, .empty⟩ := by
  rw [startPlugin] at h
  cases hsettings : config.settings pluginId Settings.ofJson {} with
  | error e =>
    rw [hsettings] at h
    cases h
  | ok t =>
    rw [hsettings] at h
    obtain ⟨activated, w₁, hactivate, hrest⟩ := Effect.outcome_bind_eq_ok.1 h
    cases hvalid : t.validate with
    | error e =>
      rw [outcome_activate_of_invalid hvalid] at hactivate
      cases hactivate
      cases hrest
    | ok _ =>
      cases hread : cell.read w.store with
      | some a =>
        rw [outcome_activate_of_active hread hvalid] at hactivate
        cases hactivate
        cases hrest
      | none =>
        rw [outcome_activate hvalid hread] at hactivate
        cases hactivate
        cases hrest
        exact ⟨t, rfl, hvalid, rfl, cell.read_put _ w⟩

inductive Refusal (config : Config.AppConfig) : Fault → Prop
  | unreadable {e : AppError} :
      config.settings pluginId Settings.ofJson {} = .error e → Refusal config (.app e)
  | invalid {t : Settings} {e : SettingsError} :
      config.settings pluginId Settings.ofJson {} = .ok t → t.validate = .error e →
      Refusal config (.app ⟨.configuration, "Invalid rate limit settings: " ++ e.text, [e.text]⟩)
  | active {t : Settings} :
      config.settings pluginId Settings.ofJson {} = .ok t → t.validate = .ok () →
      Refusal config (.app ⟨.plugin, "Rate limit plugin is already initialized", []⟩)

theorem outcome_startPlugin_of_active {a : Active} (h : cell.read w.store = some a)
    (config : Config.AppConfig) :
    ∃ fault, Refusal config fault ∧ (startPlugin cell config).outcome w = (.ok (.error fault), w) := by
  rw [startPlugin]
  cases hsettings : config.settings pluginId Settings.ofJson {} with
  | error e => exact ⟨_, .unreadable hsettings, rfl⟩
  | ok t =>
    cases hvalid : t.validate with
    | error e =>
      exact ⟨_, .invalid hsettings hvalid,
        Effect.outcome_bind_of_ok (outcome_activate_of_invalid hvalid) _⟩
    | ok _ =>
      exact ⟨_, .active hsettings hvalid,
        Effect.outcome_bind_of_ok (outcome_activate_of_active h hvalid) _⟩

/-- Let valid settings be fixed by hand, and let nothing touch the cell until a manager starts, with
this plugin anywhere in its list. Then the settings are in effect, whatever the configuration says.
But the manager does not initialize: if the plugins before this one contribute, it fails at this
one, whose settings stay in effect. -/
theorem fixed_settings_refused (cell : Cell υ (Option Active)) (s : Settings) (w v : World υ)
    (hvalid : s.validate = .ok ()) (hfresh : cell.read w.store = none)
    (hkept : cell.Kept (cell.put (some ⟨s, .empty⟩) w) v) (config : Config.AppConfig)
    (before after : PluginList (host υ) υ) (hbefore : ∀ p ∈ before, p.Keeps cell) :
    let ps := before ++ plugin cell :: after
    (activate cell s).outcome w = (.ok (.ok ()), cell.put (some ⟨s, .empty⟩) w) ∧ InEffect cell s v ∧
    (∀ m v', ((ofPlugins ps).start config).outcome v ≠ (.ok (m, .ok ()), v')) ∧
    ∀ cs, Contributed (H := host υ) config before v cs → ∃ m fault v', Refusal config fault ∧
      ((ofPlugins ps).start config).outcome v =
        (.ok (m, .error (.initialization pluginId fault)), v') ∧
      FailsAt (H := host υ) config ps v before.length m (.initialization pluginId fault) v' ∧
      InEffect cell s v' := by
  intro ps
  have hread : cell.read v.store = some ⟨s, .empty⟩ := hkept.read_eq (cell.read_put _ w)
  refine ⟨outcome_activate hvalid hfresh, inEffect_of_read hread, fun m v' hstart ↦ ?_,
    fun cs hcs ↦ ?_⟩
  · obtain ⟨earlier, own, later, w₁, w₂, _, hearlier, hown, -, hruns, hgiven, -⟩ :=
      exists_split_of_start hstart
    have hkept₁ : cell.Kept v w₁ :=
      kept_of_runs hruns fun a ha ↦ hbefore _ (hearlier ▸ List.mem_map_of_mem ha)
    obtain ⟨hs, -⟩ := hgiven
    rw [hown] at hs
    obtain ⟨fault, -, hfault⟩ := outcome_startPlugin_of_active (hkept₁.read_eq hread) config
    cases hs.symm.trans hfault
  · obtain ⟨w₁, hruns⟩ := hcs.given
    have hkept₁ : cell.Kept v w₁ :=
      kept_of_runs hruns fun a ha ↦ hbefore _ (hcs.plugins ▸ List.mem_map_of_mem ha)
    obtain ⟨fault, hrefusal, hfault⟩ := outcome_startPlugin_of_active (hkept₁.read_eq hread) config
    obtain ⟨m, hstart, hfails⟩ := failsAt_of_start_error (p := plugin cell) hcs hruns hfault after
    exact ⟨m, fault, w₁, hrefusal, hstart, hfails, inEffect_of_read (hkept₁.read_eq hread)⟩

theorem fixed_settings_refused_beside_audit :
    let cell := Server.limiterCell
    let s : Settings := { maxTokens := 3 }
    let w : World Server.Memory := World.start {}
    let v := cell.put (some ⟨s, .empty⟩) w
    let before := [Audit.plugin Server.auditCell]
    s.validate = .ok () ∧ cell.read w.store = none ∧ (∀ p ∈ before, p.Keeps cell) ∧ InEffect cell s v ∧
    ∃ m fault v', Refusal {} fault ∧
      ((ofPlugins (before ++ [plugin cell])).start {}).outcome v =
        (.ok (m, .error (.initialization pluginId fault)), v') ∧ InEffect cell s v' := by
  intro cell s w v before
  have hvalid : s.validate = .ok () := (validate_eq_ok_iff s).2 (by decide +kernel)
  have hbefore : ∀ p ∈ before, p.Keeps cell := by
    intro p hp
    rw [List.mem_singleton.1 hp]
    exact (Audit.foreign_plugin Server.audit_apart_limiter).keeps
  obtain ⟨-, hinEffect, -, hrefused⟩ :=
    fixed_settings_refused cell s w v hvalid rfl (.refl v) {} before [] hbefore
  -- Beside it the audit plugin alone starts.
  obtain ⟨m, w', hstart⟩ : ∃ m w', ((ofPlugins before).start {}).outcome v = (.ok (m, .ok ()), w') :=
    ⟨_, _, rfl⟩
  obtain ⟨cs, hcs, -⟩ := exists_serves_of_start hstart
  obtain ⟨m, fault, v', hrefusal, hfails, -, hkeeps⟩ := hrefused cs hcs
  exact ⟨hvalid, rfl, hbefore, hinEffect, m, fault, v', hrefusal, hfails, hkeeps⟩

/-- A plugin with valid fixed settings, handed to a manager with nothing beside it and an empty
configuration, keeps it from initializing. -/
theorem fixed_settings_refused_alone :
    let s : Settings := { maxTokens := 3 }
    ∃ w m w', s.validate = .ok () ∧
      (activate Server.limiterCell s).outcome (World.start {}) = (.ok (.ok ()), w) ∧
      ((ofPlugins [plugin Server.limiterCell]).start {}).outcome w =
        (.ok (m, .error (.initialization "rate-limit"
          (.app ⟨.plugin, "Rate limit plugin is already initialized", []⟩))), w') := by
  intro s
  have hvalid : s.validate = .ok () := (validate_eq_ok_iff s).2 (by decide +kernel)
  exact ⟨_, _, _, hvalid, outcome_activate hvalid rfl, rfl⟩

end FrontDoor.RateLimit
