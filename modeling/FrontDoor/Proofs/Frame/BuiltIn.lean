import FrontDoor.AssembledPlugin
import FrontDoor.Proofs.Frame.Plugins
import FrontDoor.Server

namespace FrontDoor

open Http

variable {υ α β : Type} {c : Cell υ α}

namespace Cell

theorem keeps_read {γ : Type} (d : Cell υ β) {f : β → Effect υ γ} (hf : ∀ b, (f b).Keeps c) :
    (d.get >>= f).Keeps c :=
  Effect.Keeps.bind (fun _ ↦ rfl) hf

theorem Apart.keeps_set {d : Cell υ β} (h : d.Apart c) (b : β) :
    (d.set b).Keeps c := fun w ↦ h b w.store

end Cell

namespace Effect

theorem keeps_log (level : Log.Level) (component : Log.Component) (message : String)
    (fields : List (String × Json)) :
    (log level component message fields : Effect υ Unit).Keeps c := fun _ ↦ rfl

theorem keeps_abort {γ : Type} (e : Abort) (f : β → Effect υ γ) :
    ((throw e : Effect υ β) >>= f).Keeps c := fun _ ↦ rfl

theorem eq_of_outcomes {body : Effect υ β} {b b' : β} {w w₁ w₂ : World υ}
    (h : body.outcome w = (.ok b, w₁)) (h' : body.outcome w = (.ok b', w₂)) : b = b' ∧ w₁ = w₂ := by
  obtain ⟨hb, hw⟩ := Prod.mk.inj (h.symm.trans h')
  exact ⟨Except.ok.inj hb, hw⟩

theorem eq_of_outcome_pure {b b' : β} {w w' : World υ}
    (h : (pure b : Effect υ β).outcome w = (.ok b', w')) :
    b = b' ∧ w = w' := by
  cases h
  exact ⟨rfl, rfl⟩

end Effect

theorem eq_of_get?_insert_empty {path path' : String} {b b' : β}
    (h : ((∅ : Dict β).insert path b).get? path' = some b') : path' = path ∧ b' = b := by
  rw [Dict.get?_insert] at h
  split at h
  · rename_i heq
    exact ⟨heq.symm, (Option.some.inj h).symm⟩
  · cases h

theorem eq_of_get?_elim {γ : Type} {found : Option γ} {path path' : String} {b b' : β}
    (h : (found.elim ∅ fun _ ↦ (∅ : Dict β).insert path b).get? path' = some b') :
    path' = path ∧ b' = b := by
  cases found with
  | none => cases h
  | some _ => exact eq_of_get?_insert_empty h

theorem exists_eq_of_mem_elim {γ : Type} {found : Option γ} {f : γ → β} {b : β}
    (h : b ∈ found.elim [] fun a ↦ [f a]) : ∃ a, b = f a := by
  cases found with
  | none => cases h
  | some a => exact ⟨a, List.mem_singleton.1 h⟩

theorem Http.MethodTable.keeps_get {service : Service υ} (h : Service.Keeps c service) :
    (MethodTable.get service).Keeps c where
  service m service' hm := by
    rw [MethodTable.eq_of_service?_get hm]
    exact h
  otherwise := fun _ ↦ Effect.keeps_pure _

theorem AssembledPlugin.foreign {kind : Middleware (host υ) → Prop} {p : AssembledPlugin (host υ) υ}
    (hstart : ∀ ctx, (p.toPlugin.start ctx).Keeps c)
    (hendpoints : ∀ path t, p.endpoints.get? path = some t → t.Keeps c)
    (hhooks : ∀ phase, ∀ hook ∈ Registration.hooks ⟨p.id, p.hooks⟩ phase, hook.Keeps c)
    (hmiddleware : ∀ mw ∈ p.middleware, kind mw) : Foreign c kind p.toPlugin where
  keeps := ⟨hstart, Effect.keeps_pure _, Effect.keeps_pure _, Effect.keeps_pure _⟩
  keepsAll ctx a w w' hplugin hgiven := by
    obtain ⟨-, he, hb, hm⟩ := hgiven
    rw [hplugin] at he hb hm
    refine ⟨fun path t ht ↦ ?_, fun phase hook hhook ↦ ?_, fun mw hmw ↦ ?_⟩
    · rw [← (Effect.eq_of_outcome_pure he).1] at ht
      exact hendpoints path t ht
    · rw [Contribution.registration, ← (Effect.eq_of_outcome_pure hb).1, hplugin] at hhook
      exact hhooks phase hook hhook
    · rw [← (Effect.eq_of_outcome_pure hm).1] at hmw
      exact hmiddleware mw hmw

namespace RateLimit

variable {cell : Cell υ (Option Active)}

def statusEndpoints (cell : Cell υ (Option Active)) : Dict (MethodTable υ) :=
  (∅ : Dict (MethodTable υ)).insert statusPath (.get (statusService cell))

def limiting (cell : Cell υ (Option Active)) (s : Settings) : Middleware (host υ) :=
  ⟨s.scope, s.priority, Router.layer (enforce cell s.limits)⟩

theorem outcome_endpoints (cell : Cell υ (Option Active)) (w : World υ) :
    (plugin cell).endpoints.outcome w =
    (.ok ((cell.read w.store).elim ∅ fun _ ↦ statusEndpoints cell), w) := by
  change Effect.outcome (cell.get >>= _) w = _
  rw [Effect.outcome_bind_of_ok (cell.outcome_get w)]
  cases cell.read w.store <;> rfl

theorem outcome_middleware (cell : Cell υ (Option Active)) (w : World υ) :
    (plugin cell).middleware.outcome w =
    (.ok ((cell.read w.store).elim [] fun a ↦ [limiting cell a.settings]), w) := by
  change Effect.outcome (cell.get >>= _) w = _
  rw [Effect.outcome_bind_of_ok (cell.outcome_get w)]
  cases cell.read w.store <;> rfl

def enforcer (cell : Cell υ (Option Active)) (limits : Limits Float) : Interceptor υ := fun req ↦ do
  if ← check cell (clientKey req) then return .pass req (fun answer w ↦ (answer, w))
  else return .answer (rejection limits)

theorem layer_enforcer (cell : Cell υ (Option Active)) (limits : Limits Float) :
    (enforcer cell limits).layer = enforce cell limits := by
  funext next req w
  change Effect.outcome ((enforcer cell limits).layer next req) w =
    Effect.outcome (enforce cell limits next req) w
  rw [Interceptor.layer, enforcer, enforce, bind_assoc, Effect.outcome_bind, Effect.outcome_bind]
  rcases (check cell (clientKey req)).outcome w with ⟨e | _ | _, w₁⟩ <;> rfl

theorem keeps_check (h : cell.Apart c) (key : String) : (check cell key).Keeps c := by
  refine Cell.keeps_read cell fun found ↦ ?_
  cases found with
  | none => exact Effect.keeps_pure _
  | some active =>
    refine Effect.Keeps.bind (fun _ ↦ rfl) fun now ↦ ?_
    exact (h.keeps_set _).bind fun _ ↦ Effect.keeps_pure _

theorem keeps_status (h : cell.Apart c) (key : String) : (status cell key).Keeps c := by
  refine Cell.keeps_read cell fun found ↦ ?_
  cases found with
  | none => exact Effect.keeps_pure _
  | some active =>
    refine Effect.Keeps.bind (fun _ ↦ rfl) fun now ↦ ?_
    exact (h.keeps_set _).bind fun _ ↦ Effect.keeps_pure _

theorem keeps_statusService (h : cell.Apart c) : Service.Keeps c (statusService cell) := by
  intro req
  refine (keeps_status h _).bind fun report ↦ ?_
  cases report <;> exact Effect.keeps_pure _

theorem keeps_enforcer (h : cell.Apart c) (limits : Limits Float) :
    (enforcer cell limits).Keeps c where
  asked req := by
    refine (keeps_check h _).bind fun admitted ↦ ?_
    cases admitted <;> exact Effect.keeps_pure _
  back req w forwarded back w' hpass answer := by
    rw [enforcer] at hpass
    obtain ⟨admitted, w₁, -, hverdict⟩ := Effect.outcome_bind_eq_ok.1 hpass
    cases admitted <;> cases hverdict
    exact fun _ ↦ rfl

theorem keeps_activate (h : cell.Apart c) (settings : Settings) :
    (activate cell settings).Keeps c := by
  rw [activate]
  cases settings.validate with
  | error e => exact Effect.keeps_pure _
  | ok _ =>
    refine Cell.keeps_read cell fun found ↦ ?_
    cases found with
    | some _ => exact Effect.keeps_pure _
    | none => exact (h.keeps_set _).bind fun _ ↦ Effect.keeps_pure _

theorem keeps_startPlugin (h : cell.Apart c) (config : Config.AppConfig) :
    (startPlugin cell config).Keeps c := by
  rw [startPlugin]
  cases config.settings pluginId Settings.ofJson {} with
  | error e => exact Effect.keeps_pure _
  | ok settings =>
    refine (keeps_activate h settings).bind fun activated ↦ ?_
    cases activated with
    | error e => exact Effect.keeps_pure _
    | ok _ => exact (Effect.keeps_log _ _ _ _).bind fun _ ↦ Effect.keeps_pure _

theorem intercepts_limiting (h : cell.Apart c) (s : Settings) : Intercepts c (limiting cell s) := by
  refine ⟨enforcer cell s.limits, fun r ↦ ?_, keeps_enforcer h s.limits⟩
  rw [layer_enforcer]
  rfl

theorem foreign_plugin (h : cell.Apart c) : Foreign c (Intercepts c) (plugin cell) where
  keeps := by
    refine ⟨keeps_startPlugin h, ?_, Effect.keeps_pure _, ?_⟩
    · refine Cell.keeps_read cell fun found ↦ ?_
      cases found <;> exact Effect.keeps_pure _
    · refine Cell.keeps_read cell fun found ↦ ?_
      cases found <;> exact Effect.keeps_pure _
  keepsAll ctx a w w' hplugin hgiven := by
    obtain ⟨hs, he, hb, hm⟩ := hgiven
    rw [hplugin] at he hb hm
    refine ⟨fun path t ht ↦ ?_, fun p hook hhook ↦ ?_, fun mw hmw ↦ ?_⟩
    · rw [← (Effect.eq_of_outcomes (outcome_endpoints cell _) he).1] at ht
      rw [(eq_of_get?_elim ht).2]
      exact MethodTable.keeps_get (keeps_statusService h)
    · rw [Contribution.registration, Registration.hooks, ← (Effect.eq_of_outcome_pure hb).1] at hhook
      cases hhook
    · rw [← (Effect.eq_of_outcomes (outcome_middleware cell _) hm).1] at hmw
      obtain ⟨active, rfl⟩ := exists_eq_of_mem_elim hmw
      exact intercepts_limiting h active.settings

end RateLimit

namespace Audit

variable {cell : Cell υ (Option Log)}

def recorder (cell : Cell υ (Option Log)) : Hook υ := ⟨.all, recordHandler (append cell)⟩

def recentEndpoints (cell : Cell υ (Option Log)) : Dict (MethodTable υ) :=
  (∅ : Dict (MethodTable υ)).insert recentPath (.get (recentService cell))

theorem keeps_append (h : cell.Apart c) (record : Record) : (append cell record).Keeps c := by
  refine Cell.keeps_read cell fun found ↦ ?_
  cases found with
  | none => exact Effect.keeps_pure _
  | some log => exact h.keeps_set _

theorem keeps_recorder (h : cell.Apart c) : (recorder cell).Keeps c := by
  intro ctx payload
  refine Effect.Keeps.bind (fun _ ↦ rfl) fun timestamp ↦ ?_
  cases recordOf ctx payload timestamp with
  | error e => exact Effect.keeps_pure _
  | ok record => exact (keeps_append h record).bind fun _ ↦ Effect.keeps_pure _

theorem keeps_recentService (cell : Cell υ (Option Log)) (c : Cell υ α) :
    Service.Keeps c (recentService cell) := by
  intro req
  rw [recentService]
  cases Query.number? "limit" 0x10000000000000000 (Query.pairs (req.query.getD "")) none with
  | error message => exact Effect.keeps_pure _
  | ok limit =>
    refine Cell.keeps_read cell fun found ↦ ?_
    cases found <;> exact Effect.keeps_pure _

theorem keeps_startPlugin (h : cell.Apart c) (config : Config.AppConfig) :
    (startPlugin cell config).Keeps c := by
  rw [startPlugin]
  cases config.settings pluginId Settings.ofJson {} with
  | error e => exact Effect.keeps_pure _
  | ok settings =>
    by_cases hzero : settings.capacity = 0
    · simp only [hzero, if_true]
      exact Effect.keeps_pure _
    · simp only [hzero, if_false]
      cases Log.new settings.capacity with
      | error abort => exact Effect.keeps_abort abort _
      | ok log =>
        refine (Effect.keeps_pure log).bind fun log ↦ Cell.keeps_read cell fun found ↦ ?_
        cases found with
        | some _ => exact Effect.keeps_pure _
        | none =>
          refine (h.keeps_set _).bind fun _ ↦ ?_
          exact (Effect.keeps_log _ _ _ _).bind fun _ ↦ Effect.keeps_pure _

theorem outcome_endpoints (cell : Cell υ (Option Log)) (w : World υ) :
    (plugin cell).endpoints.outcome w =
    (.ok ((cell.read w.store).elim ∅ fun _ ↦ recentEndpoints cell), w) := by
  change Effect.outcome (cell.get >>= _) w = _
  rw [Effect.outcome_bind_of_ok (cell.outcome_get w)]
  cases cell.read w.store <;> rfl

theorem outcome_hooks (cell : Cell υ (Option Log)) (w : World υ) : (plugin cell).hooks.outcome w =
    (.ok ((cell.read w.store).map fun _ ↦ { after := [recorder cell] }), w) := by
  change Effect.outcome (cell.get >>= _) w = _
  rw [Effect.outcome_bind_of_ok (cell.outcome_get w)]
  cases cell.read w.store <;> rfl

theorem eq_recorder_of_mem {found : Option Log} {id : String} {p : Phase} {hook : Hook υ}
    (h : hook ∈ Registration.hooks ⟨id, found.map fun _ ↦ { after := [recorder cell] }⟩ p) :
    hook = recorder cell := by
  cases found with
  | none => cases h
  | some _ =>
    cases p with
    | before => cases h
    | after => exact List.mem_singleton.1 h

theorem foreign_plugin (h : cell.Apart c) : Foreign c (Intercepts c) (plugin cell) where
  keeps := by
    refine ⟨keeps_startPlugin h, ?_, ?_, Effect.keeps_pure _⟩
    · refine Cell.keeps_read cell fun found ↦ ?_
      cases found <;> exact Effect.keeps_pure _
    · refine Cell.keeps_read cell fun found ↦ ?_
      cases found <;> exact Effect.keeps_pure _
  keepsAll ctx a w w' hplugin hgiven := by
    obtain ⟨hs, he, hb, hm⟩ := hgiven
    rw [hplugin] at he hb hm
    refine ⟨fun path t ht ↦ ?_, fun p hook hhook ↦ ?_, fun mw hmw ↦ ?_⟩
    · rw [← (Effect.eq_of_outcomes (outcome_endpoints cell _) he).1] at ht
      rw [(eq_of_get?_elim ht).2]
      exact MethodTable.keeps_get (keeps_recentService cell c)
    · rw [Contribution.registration, ← (Effect.eq_of_outcomes (outcome_hooks cell _) hb).1] at hhook
      rw [eq_recorder_of_mem hhook]
      exact keeps_recorder h
    · rw [← (Effect.eq_of_outcome_pure hm).1] at hmw
      cases hmw

end Audit

namespace Server

theorem limiter_apart_audit : limiterCell.Apart auditCell := fun _ _ ↦ rfl

theorem audit_apart_limiter : auditCell.Apart limiterCell := fun _ _ ↦ rfl

theorem exists_start_builtIn :
    ∃ m w, ((Manager.ofPlugins builtIn).start {}).outcome (World.start {}) = (.ok (m, .ok ()), w) := by
  have hadopt : ∃ m₁ w₁,
      (Manager.adoptAll ({} : Config.AppConfig) builtIn (Manager.ofPlugins builtIn)).outcome
      (World.start {}) = (.ok (m₁, .ok ()), w₁) := ⟨_, _, rfl⟩
  obtain ⟨m₁, w₁, hadopt⟩ := hadopt
  exact ⟨_, _, Manager.outcome_start_eq_ok.2 ⟨m₁, w₁, hadopt, rfl, rfl⟩⟩

end Server

end FrontDoor
