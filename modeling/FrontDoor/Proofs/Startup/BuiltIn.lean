import FrontDoor.Proofs.Audit.Recording
import FrontDoor.Proofs.Audit.Window
import FrontDoor.Proofs.RateLimit.Charge
import FrontDoor.Proofs.Startup.Once

namespace FrontDoor

open Http

variable {υ : Type} {w w' : World υ} {config : Config.AppConfig}

namespace RateLimit

variable {cell : Cell υ (Option Active)} {t : Settings}

/-- The settings of a configuration if they can be read and drive a limiter. -/
def accepted? (config : Config.AppConfig) : Option Settings :=
  (config.settings pluginId Settings.ofJson {}).toOption.filter fun t ↦ t.validate.toBool

def setup (cell : Cell υ (Option Active)) : Setup υ Active Settings (Buckets Float) where
  cell := cell
  start := startPlugin cell
  accepted? := accepted?
  hold := Active.mk
  initial := .empty

theorem accepted?_eq_some_iff :
    accepted? config = some t ↔ config.settings pluginId Settings.ofJson {} = .ok t ∧
    t.maxTokens ≠ 0 ∧ t.refillPerSecond.isFinite = true ∧ ¬ t.refillPerSecond < 0.0 := by
  rw [accepted?, ← validate_eq_ok_iff]
  cases config.settings pluginId Settings.ofJson {} with
  | error e => simp [Except.toOption]
  | ok s =>
    simp only [Except.toOption, Option.filter_some, Except.ok.injEq]
    cases hvalid : s.validate with
    | error e =>
      simp only [Except.toBool, Bool.false_eq_true, if_false, reduceCtorEq, false_iff, not_and]
      rintro rfl
      simp [hvalid]
    | ok _ =>
      simp only [Except.toBool, if_true, Option.some.injEq]
      constructor
      · rintro rfl
        exact ⟨rfl, hvalid⟩
      · exact And.left

theorem exists_tries (cell : Cell υ (Option Active)) (config : Config.AppConfig) (w : World υ) :
    ∃ result w', (startPlugin cell config).outcome w = (.ok result, w') ∧
      (setup cell).Tries config w result w' := by
  cases hread : cell.read w.store with
  | some a =>
    obtain ⟨fault, -, hfault⟩ := outcome_startPlugin_of_active hread config
    exact ⟨_, w, hfault, .refused (.inr (by simp [setup, hread]))⟩
  | none =>
    rw [startPlugin]
    cases hsettings : config.settings pluginId Settings.ofJson {} with
    | error e =>
      have hnone : accepted? config = none := by rw [accepted?, hsettings]; rfl
      exact ⟨_, w, rfl, .refused (.inl hnone)⟩
    | ok t =>
      cases hvalid : t.validate with
      | error e =>
        have hnone : accepted? config = none := by
          simp [accepted?, hsettings, Except.toOption, hvalid, Except.toBool]
        exact ⟨_, w, Effect.outcome_bind_of_ok (outcome_activate_of_invalid hvalid) _,
          .refused (.inl hnone)⟩
      | ok _ =>
        refine ⟨_, _, Effect.outcome_bind_of_ok (outcome_activate hvalid hread) _, ?_⟩
        exact .accepted (accepted?_eq_some_iff.2 ⟨hsettings, (validate_eq_ok_iff t).1 hvalid⟩) hread
          (cell.read_put _ w)

theorem once_setup (cell : Cell υ (Option Active)) : (setup cell).Once := by
  intro config w result w' h
  obtain ⟨result', w'', houtcome, htries⟩ := exists_tries cell config w
  obtain ⟨rfl, rfl⟩ := Effect.eq_of_outcomes houtcome h
  exact htries

/-- What the plugin contributes by these settings, or without any: what refers to a limiter refers
to the one of its cell. -/
structure Contributes (cell : Cell υ (Option Active)) (t? : Option Settings) (w : World υ) : Prop where
  endpoints : (plugin cell).endpoints.outcome w = (.ok (t?.elim ∅ fun _ ↦ statusEndpoints cell), w)
  hooks : (plugin cell).hooks.outcome w = (.ok none, w)
  middleware : (plugin cell).middleware.outcome w = (.ok (t?.elim [] fun t ↦ [limiting cell t]), w)
  charges : ∀ t bs, cell.read w.store = some ⟨t, bs⟩ →
    ∀ next req, (enforce cell t.limits next req).outcome w =
    let (admitted, left) := bs.check t.limits w.clock (clientKey req)
    if admitted then (next req).outcome (cell.put (some ⟨t, left⟩) w)
    else (.ok (rejection t.limits), cell.put (some ⟨t, left⟩) w)
  reports : ∀ t bs, cell.read w.store = some ⟨t, bs⟩ → ∀ req, (statusService cell req).outcome w =
    let (report, left) := bs.status t.limits w.clock (clientKey req)
    (.ok (.json 200 (told report).write), cell.put (some ⟨t, left⟩) w)
  tells : ∀ t : Settings, t.maxTokens < 0x100000000 → Json.Legible t.refillPerSecond →
    ∀ (bs : Buckets Float) now key,
    Tells (bs.status t.limits now key).1 (.json 200 (told (bs.status t.limits now key).1).write)

theorem contributes_of_read {t? : Option Settings} {bs : Buckets Float}
    (h : cell.read w.store = t?.map (Active.mk · bs)) :
    Contributes cell t? w where
  endpoints := by
    rw [outcome_endpoints, h]
    cases t? <;> rfl
  hooks := rfl
  middleware := by
    rw [outcome_middleware, h]
    cases t? <;> rfl
  charges _ _ hread := outcome_enforce hread
  reports _ _ hread := outcome_statusService hread
  tells _ hmax hrate bs now key := tells_status bs hmax hrate now key

theorem happens_of_drawn {s : Settings} {bs : Buckets Float} {calls : Schedule}
    (hread : cell.read w.store = some ⟨s, bs⟩) (h : Drawn cell s calls w w') :
    (setup cell).Happens (.use (·.afterAll s.limits calls)) w w' := by
  refine .use (fun hnone ↦ ?_) fun t bs' hbs' ↦ ?_
  · cases hread.symm.trans hnone
  · obtain ⟨rfl, rfl⟩ := Active.mk.inj (Option.some.inj (hread.symm.trans hbs'))
    exact h bs hread

end RateLimit

namespace Audit

variable {cell : Cell υ (Option Log)} {t : Settings}

/-- The settings of a configuration if they can be read and leave room for a record. -/
def accepted? (config : Config.AppConfig) : Option Settings :=
  (config.settings pluginId Settings.ofJson {}).toOption.filter fun t ↦ t.capacity ≠ 0

def setup (cell : Cell υ (Option Log)) : Setup υ Log Settings (List Record) where
  cell := cell
  start := startPlugin cell
  accepted? := accepted?
  hold t entries := ⟨entries, t.capacity⟩
  initial := []

theorem accepted?_eq_some_iff : accepted? config = some t ↔
    config.settings pluginId Settings.ofJson {} = .ok t ∧ 0 < t.capacity := by
  rw [accepted?]
  cases config.settings pluginId Settings.ofJson {} with
  | error e => simp [Except.toOption]
  | ok s =>
    simp only [Except.toOption, Option.filter_some, Except.ok.injEq, decide_eq_true_eq,
      Option.ite_none_right_eq_some, Option.some.injEq, Nat.pos_iff_ne_zero]
    constructor
    · rintro ⟨hzero, rfl⟩
      exact ⟨rfl, hzero⟩
    · rintro ⟨rfl, hzero⟩
      exact ⟨hzero, rfl⟩

/-- A configuration asks for a log whose memory cannot be reserved. -/
def Exceeds (config : Config.AppConfig) : Prop :=
  ∃ t, config.settings pluginId Settings.ofJson {} = .ok t ∧
    Log.maxBytes < t.capacity * Log.recordBytes

theorem not_exceeds_of_settings (h : config.settings pluginId Settings.ofJson {} = .ok t)
    (hfits : t.capacity * Log.recordBytes ≤ Log.maxBytes) : ¬ Exceeds config := by
  rintro ⟨t', ht', hlarge⟩
  obtain rfl := Except.ok.inj (ht'.symm.trans h)
  exact Nat.not_lt.2 hfits hlarge

theorem outcome_startPlugin_of_exceeds (h : Exceeds config) (cell : Cell υ (Option Log))
    (w : World υ) :
    (startPlugin cell config).outcome w = (.error .capacityOverflow, w) := by
  obtain ⟨t, hsettings, hlarge⟩ := h
  have hzero : t.capacity ≠ 0 := by
    intro hzero
    rw [hzero, Nat.zero_mul] at hlarge
    exact Nat.not_lt_zero _ hlarge
  have hnew : Log.new t.capacity = .error .capacityOverflow := by
    rw [Log.new, Nat.max_eq_left (Nat.pos_of_ne_zero hzero), if_pos hlarge]
  -- The log is made before the cell is looked at.
  rw [startPlugin, hsettings]
  dsimp only
  rw [if_neg hzero, hnew]
  rfl

theorem exists_tries (h : ¬ Exceeds config) (cell : Cell υ (Option Log)) (w : World υ) :
    ∃ result w', (startPlugin cell config).outcome w = (.ok result, w') ∧
      (setup cell).Tries config w result w' := by
  rw [startPlugin]
  cases hsettings : config.settings pluginId Settings.ofJson {} with
  | error e =>
    have hnone : accepted? config = none := by rw [accepted?, hsettings]; rfl
    exact ⟨_, w, rfl, .refused (.inl hnone)⟩
  | ok t =>
    by_cases hzero : t.capacity = 0
    · have hnone : accepted? config = none := by simp [accepted?, hsettings, Except.toOption, hzero]
      dsimp only
      rw [if_pos hzero]
      exact ⟨_, w, rfl, .refused (.inl hnone)⟩
    · have hcapacity : 0 < t.capacity := Nat.pos_of_ne_zero hzero
      have hfits : max t.capacity 1 * Log.recordBytes ≤ Log.maxBytes := by
        rw [Nat.max_eq_left hcapacity]
        exact Nat.not_lt.1 fun hlarge ↦ h ⟨t, hsettings, hlarge⟩
      have hnew := Log.new_eq_ok_iff.2 ⟨hfits, rfl⟩
      dsimp only
      rw [if_neg hzero, hnew]
      dsimp only
      rw [pure_bind]
      cases hread : cell.read w.store with
      | some log =>
        rw [Effect.outcome_bind_of_ok (cell.outcome_get w), hread]
        exact ⟨_, w, rfl, .refused (.inr (by simp [setup, hread]))⟩
      | none =>
        rw [Effect.outcome_bind_of_ok (cell.outcome_get w), hread]
        refine ⟨_, _, rfl, .accepted (accepted?_eq_some_iff.2 ⟨hsettings, hcapacity⟩) hread ?_⟩
        refine (cell.read_put _ w).trans ?_
        rw [Nat.max_eq_left hcapacity, Log.ofRecords, List.rtake_nil]
        rfl

theorem once_setup (cell : Cell υ (Option Log)) : (setup cell).Once := by
  intro config w result w' h
  by_cases hexceeds : Exceeds config
  · cases (outcome_startPlugin_of_exceeds hexceeds cell w).symm.trans h
  · obtain ⟨result', w'', houtcome, htries⟩ := exists_tries hexceeds cell w
    obtain ⟨rfl, rfl⟩ := Effect.eq_of_outcomes houtcome h
    exact htries

/-- What the plugin contributes once it has settings, or without any: what refers to a log refers to
the one of its cell. -/
structure Contributes (cell : Cell υ (Option Log)) (t? : Option Settings) (w : World υ) : Prop where
  endpoints : (plugin cell).endpoints.outcome w = (.ok (t?.elim ∅ fun _ ↦ recentEndpoints cell), w)
  hooks : (plugin cell).hooks.outcome w = (.ok (t?.map fun _ ↦ { after := [recorder cell] }), w)
  middleware : (plugin cell).middleware.outcome w = (.ok [], w)
  records : ∀ log, cell.read w.store = some log →
    ∀ ctx payload record, recordOf ctx payload w.wallClock = .ok record →
    ((recorder cell).call ctx payload).outcome w = (.ok (.ok ()), cell.put (some (log.push record)) w)
  lists : ∀ log, cell.read w.store = some log →
    ∀ req, (recentService cell req).outcome w = (listing log req).outcome w

theorem contributes_of_read {t? : Option Settings} {entries : List Record}
    (h : cell.read w.store = t?.map (⟨entries, ·.capacity⟩)) : Contributes cell t? w where
  endpoints := by
    rw [outcome_endpoints, h]
    cases t? <;> rfl
  hooks := by
    rw [outcome_hooks, h]
    cases t? <;> rfl
  middleware := rfl
  records log hread ctx payload record hrecord := by
    change Effect.outcome (Effect.wallClock >>= _) w = _
    have hclock : (Effect.wallClock : Effect υ Time.Timestamp).outcome w = (.ok w.wallClock, w) := rfl
    rw [Effect.outcome_bind_of_ok hclock, hrecord]
    dsimp only
    rw [Effect.outcome_bind_of_ok (outcome_append cell record w), appended, hread]
    rfl
  lists _ hread := outcome_recentService hread

theorem happens_appended {log : Log} (hread : cell.read w.store = some log) (record : Record) :
    (setup cell).Happens (.use fun entries ↦ (Log.push ⟨entries, log.capacity⟩ record).entries) w
      (appended cell record w) := by
  refine .use (fun hnone ↦ ?_) fun t entries hentries ↦ ?_
  · cases hread.symm.trans hnone
  · obtain rfl : log = _ := Option.some.inj (hread.symm.trans hentries)
    have hcapacity : Log.push ⟨entries, t.capacity⟩ record =
        ⟨(Log.push ⟨entries, t.capacity⟩ record).entries, t.capacity⟩ := by
      rw [Log.push]
      split <;> rfl
    exact (read_appended hread record).trans (congrArg some hcapacity)

end Audit

/-- Any number of starts and uses of the built-in plugins, from cells that are empty. Each plugin
takes the first settings that can be read and are valid, and that start alone succeeds; every other
one fails and could as well have been left out. What lives under the settings is then what its uses
make of it, and no start touches it. The plugin contributes nothing before, and by those settings
and that cell ever after. Every start returns, where a log is asked for whose memory can be
reserved. -/
theorem builtIn_once (limiter : Cell υ (Option RateLimit.Active)) (log : Cell υ (Option Audit.Log))
    {charges : List (Setup.Deed (RateLimit.Buckets Float))}
    {entries : List (Setup.Deed (List Audit.Record))}
    {w w' v v' : World υ} (hlimiter : limiter.read w.store = none) (hlog : log.read v.store = none)
    (hcharges : Runs (RateLimit.setup limiter).Happens charges w w')
    (hentries : Runs (Audit.setup log).Happens entries v v') :
    ((RateLimit.setup limiter).Lifecycle charges w w' ∧
      RateLimit.Contributes limiter ((RateLimit.setup limiter).settings? charges) w') ∧
    ((Audit.setup log).Lifecycle entries v v' ∧
      Audit.Contributes log ((Audit.setup log).settings? entries) v') ∧
    (∀ config t, (RateLimit.setup limiter).accepted? config = some t ↔
      config.settings RateLimit.pluginId RateLimit.Settings.ofJson {} = .ok t ∧
        t.maxTokens ≠ 0 ∧ t.refillPerSecond.isFinite = true ∧ ¬ t.refillPerSecond < 0.0) ∧
    (∀ config t, (Audit.setup log).accepted? config = some t ↔
      config.settings Audit.pluginId Audit.Settings.ofJson {} = .ok t ∧ 0 < t.capacity) ∧
    (∀ config u, ∃ result u', (RateLimit.startPlugin limiter config).outcome u = (.ok result, u')) ∧
    ∀ config u, ¬ Audit.Exceeds config →
      ∃ result u', (Audit.startPlugin log config).outcome u = (.ok result, u') := by
  have hkLimiter := RateLimit.once_setup limiter
  have hkLog := Audit.once_setup log
  obtain ⟨bs, hread⟩ := Setup.exists_read_eq hkLimiter hcharges hlimiter
  obtain ⟨held, hread'⟩ := Setup.exists_read_eq hkLog hentries hlog
  refine ⟨⟨Setup.lifecycle_of_runs hkLimiter hlimiter hcharges, RateLimit.contributes_of_read hread⟩,
    ⟨Setup.lifecycle_of_runs hkLog hlog hentries, Audit.contributes_of_read hread'⟩,
    fun _ _ ↦ RateLimit.accepted?_eq_some_iff, fun _ _ ↦ Audit.accepted?_eq_some_iff,
      fun config u ↦ ?_, fun config u h ↦ ?_⟩
  · obtain ⟨result, u', houtcome, -⟩ := RateLimit.exists_tries limiter config u
    exact ⟨result, u', houtcome⟩
  · obtain ⟨result, u', houtcome, -⟩ := Audit.exists_tries h log u
    exact ⟨result, u', houtcome⟩

def configFor (maxTokens capacity : Nat) : Config.AppConfig where
  plugins.settings :=
    ((∅ : Dict Json).insert RateLimit.pluginId (.object [("max_tokens", .int maxTokens)])).insert
    Audit.pluginId (.object [("capacity", .int capacity)])

theorem Setup.Lifecycle.of_three_starts {σ τ κ : Type} {k : Setup υ σ τ κ}
    {c₁ c₂ c₃ : Config.AppConfig} {r₁ r₂ r₃ : Except Fault Unit} {change : κ → κ} {t : τ}
    (h : k.Lifecycle [.start c₁ r₁, .start c₂ r₂, .use change, .start c₃ r₃] w w')
    (h₁ : k.accepted? c₁ = none)
    (h₂ : k.accepted? c₂ = some t) :
    r₁ ≠ .ok () ∧ r₂ = .ok () ∧ r₃ ≠ .ok () ∧
      k.settings? [.start c₁ r₁, .start c₂ r₂, .use change, .start c₃ r₃] = some t ∧
      k.cell.read w'.store = some (k.hold t (change k.initial)) := by
  have hfirst : k.settings? [.start c₁ r₁] = none :=
    settings?_eq_none_iff.2 (by simpa [acceptedBy?] using h₁)
  have hsecond : k.settings? [.start c₁ r₁, .start c₂ r₂, .use change] = some t := by
    simp [settings?, acceptedBy?, h₁, h₂]
  refine ⟨fun hok ↦ ?_, ?_, fun hok ↦ ?_, h.active [.start c₁ r₁] c₂ r₂ _ t rfl hfirst h₂⟩
  · exact ((h.succeeds_iff [] c₁ r₁ _ rfl).1 hok).2 h₁
  · exact (h.succeeds_iff [.start c₁ r₁] c₂ r₂ _ rfl).2 ⟨hfirst, by simp [h₂]⟩
  · have hnone := ((h.succeeds_iff [.start c₁ r₁, .start c₂ r₂, .use change] c₃ r₃ _ rfl).1 hok).1
    cases hnone.symm.trans hsecond

theorem builtIn_once_thrice :
    let limiter := Server.limiterCell
    let log := Server.auditCell
    let w : World Server.Memory := World.start {}
    let s : RateLimit.Settings := { maxTokens := 3 }
    let record : Audit.Record := ⟨"GET", "/", 200, World.identifier 0, World.epoch⟩
    (∃ r₁ r₂ r₃ clock w',
      Runs (RateLimit.setup limiter).Happens [.start (configFor 0 0) r₁, .start (configFor 3 2) r₂,
        .use (·.afterAll s.limits [(clock, .check "k")]), .start (configFor 5 4) r₃] w w' ∧
      r₁ ≠ .ok () ∧ r₂ = .ok () ∧ r₃ ≠ .ok () ∧ RateLimit.Contributes limiter (some s) w' ∧
      limiter.read w'.store =
        some ⟨s, RateLimit.Buckets.empty.afterAll s.limits [(clock, .check "k")]⟩) ∧
    ∃ r₁ r₂ r₃ w',
      Runs (Audit.setup log).Happens [.start (configFor 0 0) r₁, .start (configFor 3 2) r₂,
        .use fun entries ↦ (Audit.Log.push ⟨entries, 2⟩ record).entries,
          .start (configFor 5 4) r₃] w w' ∧
      r₁ ≠ .ok () ∧ r₂ = .ok () ∧ r₃ ≠ .ok () ∧ Audit.Contributes log (some ⟨2⟩) w' ∧
      log.read w'.store = some ⟨[record], 2⟩ := by
  intro limiter log w s record
  have hlimits : RateLimit.accepted? (configFor 3 2) = some s :=
    RateLimit.accepted?_eq_some_iff.2 ⟨rfl, by decide +kernel⟩
  have hcapacity : Audit.accepted? (configFor 3 2) = some ⟨2⟩ :=
    Audit.accepted?_eq_some_iff.2 ⟨rfl, by decide⟩
  obtain ⟨r₁, w₁, hw₁, htries₁⟩ := RateLimit.exists_tries limiter (configFor 0 0) w
  obtain ⟨-, rfl⟩ := htries₁.of_refused (.inl rfl)
  obtain ⟨r₂, w₂, hw₂, htries₂⟩ := RateLimit.exists_tries limiter (configFor 3 2) w
  obtain ⟨-, hread⟩ := htries₂.of_accepted hlimits rfl
  have hdrawn : RateLimit.Drawn limiter s [(w₂.clock, .check "k")] w₂
      ((RateLimit.check limiter "k").outcome w₂).2 := by
    intro bs hbs
    rw [RateLimit.outcome_check hbs]
    exact limiter.read_put _ w₂
  obtain ⟨r₃, w₃, hw₃, -⟩ :=
    RateLimit.exists_tries limiter (configFor 5 4) ((RateLimit.check limiter "k").outcome w₂).2
  have hcharges : Runs (RateLimit.setup limiter).Happens
      [.start (configFor 0 0) r₁, .start (configFor 3 2) r₂,
      .use (·.afterAll s.limits [(w₂.clock, .check "k")]), .start (configFor 5 4) r₃] w w₃ :=
    .cons (.start hw₁)
      (.cons (.start hw₂)
        (.cons (RateLimit.happens_of_drawn hread hdrawn) (.cons (.start hw₃) (.nil w₃))))
  have hfits₁ : ¬ Audit.Exceeds (configFor 0 0) :=
    Audit.not_exceeds_of_settings (t := ⟨0⟩) rfl (by decide)
  have hfits₂ : ¬ Audit.Exceeds (configFor 3 2) :=
    Audit.not_exceeds_of_settings (t := ⟨2⟩) rfl (by decide)
  have hfits₃ : ¬ Audit.Exceeds (configFor 5 4) :=
    Audit.not_exceeds_of_settings (t := ⟨4⟩) rfl (by decide)
  obtain ⟨q₁, v₁, hv₁, htries'₁⟩ := Audit.exists_tries hfits₁ log w
  obtain ⟨-, rfl⟩ := htries'₁.of_refused (.inl rfl)
  obtain ⟨q₂, v₂, hv₂, htries'₂⟩ := Audit.exists_tries hfits₂ log w
  obtain ⟨-, hread'⟩ := htries'₂.of_accepted hcapacity rfl
  obtain ⟨q₃, v₃, hv₃, -⟩ := Audit.exists_tries hfits₃ log (Audit.appended log record v₂)
  have hentries : Runs (Audit.setup log).Happens [.start (configFor 0 0) q₁, .start (configFor 3 2) q₂,
      .use fun entries ↦ (Audit.Log.push ⟨entries, 2⟩ record).entries,
        .start (configFor 5 4) q₃] w v₃ :=
    .cons (.start hv₁)
      (.cons (.start hv₂)
        (.cons (Audit.happens_appended hread' record) (.cons (.start hv₃) (.nil v₃))))
  obtain ⟨⟨hlife, hcontributes⟩, ⟨hlife', hcontributes'⟩, -⟩ :=
    builtIn_once limiter log rfl rfl hcharges hentries
  obtain ⟨hr₁, hr₂, hr₃, hsettings, hheld⟩ := hlife.of_three_starts rfl hlimits
  obtain ⟨hq₁, hq₂, hq₃, hsettings', hheld'⟩ := hlife'.of_three_starts rfl hcapacity
  rw [hsettings] at hcontributes
  rw [hsettings'] at hcontributes'
  exact ⟨⟨r₁, r₂, r₃, w₂.clock, w₃, hcharges, hr₁, hr₂, hr₃, hcontributes, hheld⟩,
    q₁, q₂, q₃, v₃, hentries, hq₁, hq₂, hq₃, hcontributes', hheld'⟩

end FrontDoor
