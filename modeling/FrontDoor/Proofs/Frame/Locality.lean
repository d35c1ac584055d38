import FrontDoor.Proofs.Frame.BuiltIn
import FrontDoor.Proofs.Manager.Order

namespace FrontDoor

variable {H : Host} {υ α β γ : Type} {c : Cell υ α}

namespace Effect

/-- What a step comes to, and what it leaves in a cell, depends on nothing but what the cell held. -/
def GoesBy (c : Cell υ α) (body : Effect υ β) : Prop :=
  ∀ v w, c.read v.store = c.read w.store →
    (body.outcome v).1 = (body.outcome w).1 ∧
      c.read (body.outcome v).2.store = c.read (body.outcome w).2.store

theorem goesBy_pure (b : β) : (pure b : Effect υ β).GoesBy c := fun _ _ h ↦ ⟨rfl, h⟩

theorem goesBy_abort (e : Abort) (f : β → Effect υ γ) :
    ((throw e : Effect υ β) >>= f).GoesBy c := fun _ _ h ↦ ⟨rfl, h⟩

theorem goesBy_log (level : Log.Level) (component : Log.Component) (message : String)
    (fields : List (String × Json)) :
    (log level component message fields : Effect υ Unit).GoesBy c := fun _ _ h ↦ ⟨rfl, h⟩

theorem GoesBy.bind {x : Effect υ β} {f : β → Effect υ γ} (hx : x.GoesBy c)
    (hf : ∀ b, (f b).GoesBy c) :
    (x >>= f).GoesBy c := by
  intro v w h
  obtain ⟨hresult, hleft⟩ := hx v w h
  rcases hv : x.outcome v with ⟨e | b, v₁⟩ <;> rcases hw : x.outcome w with ⟨e' | b', w₁⟩ <;>
    rw [hv, hw] at hresult hleft <;> cases hresult
  · rw [outcome_bind_of_error hv, outcome_bind_of_error hw]
    exact ⟨rfl, hleft⟩
  · rw [outcome_bind_of_ok hv, outcome_bind_of_ok hw]
    exact hf b v₁ w₁ hleft

theorem GoesBy.exists_ok {body : Effect υ β} (h : body.GoesBy c) {b : β} {v v₁ u : World υ}
    (hbody : body.outcome v = (.ok b, v₁)) (hread : c.read v.store = c.read u.store) :
    ∃ u₁, body.outcome u = (.ok b, u₁) ∧ c.read v₁.store = c.read u₁.store := by
  obtain ⟨hresult, hleft⟩ := h v u hread
  rw [hbody] at hresult hleft
  exact ⟨(body.outcome u).2, Prod.ext hresult.symm rfl, hleft⟩

end Effect

namespace Cell

theorem goesBy_get (c : Cell υ α) : c.get.GoesBy c := fun _ _ h ↦ ⟨congrArg Except.ok h, h⟩

theorem goesBy_set (c : Cell υ α) (a : α) : (c.set a).GoesBy c :=
  fun v w _ ↦ ⟨rfl, (c.read_write a v.store).trans (c.read_write a w.store).symm⟩

end Cell

/-- A plugin that goes by a cell while it starts and while its contributions are read. -/
structure Plugin.GoesBy (c : Cell υ α) (p : Plugin H υ) : Prop where
  start : ∀ ctx, (p.start ctx).GoesBy c
  endpoints : p.endpoints.GoesBy c
  hooks : p.hooks.GoesBy c
  middleware : p.middleware.GoesBy c

namespace Contribution

theorem Given.exists_of_goesBy {ctx : H.Context} {a : Contribution H υ} {v v' u : World υ}
    (h : Given ctx a v v') (hp : a.plugin.GoesBy c) (hread : c.read v.store = c.read u.store) :
    ∃ u', Given ctx a u u' := by
  obtain ⟨hs, he, hb, hm⟩ := h
  obtain ⟨u₁, hs', hread⟩ := (hp.start ctx).exists_ok hs hread
  obtain ⟨u₂, he', hread⟩ := hp.endpoints.exists_ok he hread
  obtain ⟨u₃, hb', hread⟩ := hp.hooks.exists_ok hb hread
  have hlogged := hread.trans (c.kept_logged u₃ (hookNotes a.plugin.id a.hooks)).symm
  obtain ⟨u₄, hm', -⟩ := hp.middleware.exists_ok hm hlogged
  exact ⟨_, .intro hs' he' hb' hm'⟩

end Contribution

theorem AssembledPlugin.independent {ctx : H.Context} {ps : PluginList H υ}
    (h : ∀ p ∈ ps, ∃ a : AssembledPlugin H υ, a.onStart = none ∧ p = a.toPlugin) :
    Contribution.Independent ctx (fun _ _ ↦ True) ps where
  same c v v' u hc _ hgiven _ := by
    obtain ⟨a, hstart, hplugin⟩ := h c.plugin hc
    let nothing : Cell υ Unit := ⟨fun _ ↦ (), fun _ s ↦ s, fun _ _ ↦ rfl, fun _ _ _ ↦ rfl⟩
    have hgoes : c.plugin.GoesBy nothing := by
      rw [hplugin]
      refine ⟨fun ctx ↦ ?_, Effect.goesBy_pure _, Effect.goesBy_pure _, Effect.goesBy_pure _⟩
      rw [toPlugin, hstart]
      exact Effect.goesBy_pure _
    exact hgiven.exists_of_goesBy hgoes rfl
  apart _ _ _ _ _ _ _ _ _ := trivial

namespace RateLimit

theorem goesBy_activate (cell : Cell υ (Option Active)) (settings : Settings) :
    (activate cell settings).GoesBy cell := by
  rw [activate]
  cases settings.validate with
  | error e => exact Effect.goesBy_pure _
  | ok _ =>
    refine cell.goesBy_get.bind fun found ↦ ?_
    cases found with
    | some _ => exact Effect.goesBy_pure _
    | none => exact (cell.goesBy_set _).bind fun _ ↦ Effect.goesBy_pure _

theorem goesBy_startPlugin (cell : Cell υ (Option Active)) (config : Config.AppConfig) :
    (startPlugin cell config).GoesBy cell := by
  rw [startPlugin]
  cases config.settings pluginId Settings.ofJson {} with
  | error e => exact Effect.goesBy_pure _
  | ok settings =>
    refine (goesBy_activate cell settings).bind fun activated ↦ ?_
    cases activated with
    | error e => exact Effect.goesBy_pure _
    | ok _ => exact (Effect.goesBy_log _ _ _ _).bind fun _ ↦ Effect.goesBy_pure _

theorem goesBy_plugin (cell : Cell υ (Option Active)) : (plugin cell).GoesBy cell where
  start := goesBy_startPlugin cell
  endpoints := by
    refine cell.goesBy_get.bind fun found ↦ ?_
    cases found <;> exact Effect.goesBy_pure _
  hooks := Effect.goesBy_pure _
  middleware := by
    refine cell.goesBy_get.bind fun found ↦ ?_
    cases found <;> exact Effect.goesBy_pure _

end RateLimit

namespace Audit

theorem goesBy_startPlugin (cell : Cell υ (Option Log)) (config : Config.AppConfig) :
    (startPlugin cell config).GoesBy cell := by
  rw [startPlugin]
  cases config.settings pluginId Settings.ofJson {} with
  | error e => exact Effect.goesBy_pure _
  | ok settings =>
    by_cases hzero : settings.capacity = 0
    · simp only [hzero, if_true]
      exact Effect.goesBy_pure _
    · simp only [hzero, if_false]
      cases Log.new settings.capacity with
      | error abort => exact Effect.goesBy_abort abort _
      | ok log =>
        refine (Effect.goesBy_pure log).bind fun log ↦ cell.goesBy_get.bind fun found ↦ ?_
        cases found with
        | some _ => exact Effect.goesBy_pure _
        | none =>
          refine (cell.goesBy_set _).bind fun _ ↦ ?_
          exact (Effect.goesBy_log _ _ _ _).bind fun _ ↦ Effect.goesBy_pure _

theorem goesBy_plugin (cell : Cell υ (Option Log)) : (plugin cell).GoesBy cell where
  start := goesBy_startPlugin cell
  endpoints := by
    refine cell.goesBy_get.bind fun found ↦ ?_
    cases found <;> exact Effect.goesBy_pure _
  hooks := by
    refine cell.goesBy_get.bind fun found ↦ ?_
    cases found <;> exact Effect.goesBy_pure _
  middleware := Effect.goesBy_pure _

end Audit

namespace Server

/-- A built-in plugin is untouched while its cell is empty. -/
def Untouched (p : Plugin (Http.host Memory) Memory) (w : World Memory) : Prop :=
  (p.id = RateLimit.pluginId → limiterCell.read w.store = none) ∧
    (p.id = Audit.pluginId → auditCell.read w.store = none)

theorem independent_builtIn (config : Config.AppConfig) :
    Contribution.Independent config Untouched builtIn where
  same a v v' u ha hv hgiven hu := by
    rcases List.mem_pair.1 ha with hplugin | hplugin
    · have hid : a.plugin.id = RateLimit.pluginId := congrArg Plugin.id hplugin
      exact hgiven.exists_of_goesBy (hplugin ▸ RateLimit.goesBy_plugin limiterCell)
        ((hv.1 hid).trans (hu.1 hid).symm)
    · have hid : a.plugin.id = Audit.pluginId := congrArg Plugin.id hplugin
      exact hgiven.exists_of_goesBy (hplugin ▸ Audit.goesBy_plugin auditCell)
        ((hv.2 hid).trans (hu.2 hid).symm)
  apart a v v' p ha hp hother hgiven hv := by
    rcases List.mem_pair.1 ha with hplugin | hplugin
    · have hkept := hgiven.kept (hplugin ▸ (RateLimit.foreign_plugin limiter_apart_audit).keeps)
      refine ⟨fun hid ↦ absurd (hid.trans (congrArg Plugin.id hplugin).symm) hother, fun hid ↦ ?_⟩
      exact hkept.read_eq (hv.2 hid)
    · have hkept := hgiven.kept (hplugin ▸ (Audit.foreign_plugin audit_apart_limiter).keeps)
      refine ⟨fun hid ↦ ?_, fun hid ↦ absurd (hid.trans (congrArg Plugin.id hplugin).symm) hother⟩
      exact hkept.read_eq (hv.1 hid)

end Server

end FrontDoor
