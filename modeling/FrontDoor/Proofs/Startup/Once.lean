import FrontDoor.Config.App
import FrontDoor.Proofs.Frame.Cells

namespace FrontDoor

variable {υ σ τ κ : Type}

/-- How a plugin is set up: it holds settings of a configuration in a cell, together with what lives
under them. -/
structure Setup (υ σ τ κ : Type) where
  cell : Cell υ (Option σ)
  start : Config.AppConfig → Effect υ (Except Fault Unit)
  accepted? : Config.AppConfig → Option τ
  hold : τ → κ → σ
  initial : κ

namespace Setup

/-- What is done with a plugin: it is started, or what lives under its settings is used. -/
inductive Deed (κ : Type) where
  | start (config : Config.AppConfig) (result : Except Fault Unit)
  | use (change : κ → κ)

variable {k : Setup υ σ τ κ} {deeds earlier later : List (Deed κ)} {config : Config.AppConfig}
  {result : Except Fault Unit} {w w' : World υ} {t : τ} {x : κ}

/-- A use of a plugin without settings, and whatever else leaves the cell alone, changes nothing. -/
inductive Happens (k : Setup υ σ τ κ) : Deed κ → World υ → World υ → Prop
  | start {config : Config.AppConfig} {result : Except Fault Unit} {w w' : World υ} :
      (k.start config).outcome w = (.ok result, w') → Happens k (.start config result) w w'
  | use {change : κ → κ} {w w' : World υ} :
      (k.cell.read w.store = none → k.cell.read w'.store = none) →
      (∀ t x, k.cell.read w.store = some (k.hold t x) →
        k.cell.read w'.store = some (k.hold t (change x))) →
      Happens k (.use change) w w'

/-- What may come of a start: settings take effect if none have yet, and else nothing changes. -/
inductive Tries (k : Setup υ σ τ κ) (config : Config.AppConfig) (w : World υ) :
    Except Fault Unit → World υ → Prop
  | accepted {t : τ} {w' : World υ} : k.accepted? config = some t → k.cell.read w.store = none →
      k.cell.read w'.store = some (k.hold t k.initial) → Tries k config w (.ok ()) w'
  | refused {fault : Fault} : k.accepted? config = none ∨ k.cell.read w.store ≠ none →
      Tries k config w (.error fault) w

theorem Tries.of_accepted (h : k.Tries config w result w') (ht : k.accepted? config = some t)
    (hw : k.cell.read w.store = none) :
    result = .ok () ∧ k.cell.read w'.store = some (k.hold t k.initial) := by
  cases h with
  | accepted htaken _ hread =>
    obtain rfl := Option.some.inj (htaken.symm.trans ht)
    exact ⟨rfl, hread⟩
  | refused hreason =>
    rcases hreason with hnone | hactive
    · cases hnone.symm.trans ht
    · exact absurd hw hactive

theorem Tries.of_refused (h : k.Tries config w result w')
    (hreason : k.accepted? config = none ∨ k.cell.read w.store ≠ none) :
    result ≠ .ok () ∧ w' = w := by
  cases h with
  | accepted htaken hempty =>
    rcases hreason with hnone | hactive
    · cases hnone.symm.trans htaken
    · exact absurd hempty hactive
  | refused => exact ⟨by simp, rfl⟩

/-- Nothing else comes of a start that returns. -/
def Once (k : Setup υ σ τ κ) : Prop :=
  ∀ config w result w', (k.start config).outcome w = (.ok result, w') → k.Tries config w result w'

def acceptedBy? (k : Setup υ σ τ κ) : Deed κ → Option τ
  | .start config _ => k.accepted? config
  | .use _ => none

def settings? (k : Setup υ σ τ κ) (deeds : List (Deed κ)) : Option τ := deeds.findSome? k.acceptedBy?

def Deed.change : Deed κ → κ → κ
  | .start _ _, x => x
  | .use change, x => change x

/-- What the uses among these deeds make of what lives under the settings. -/
def used (deeds : List (Deed κ)) (x : κ) : κ := deeds.foldl (fun x d ↦ d.change x) x

theorem settings?_eq_none_iff : k.settings? deeds = none ↔ ∀ d ∈ deeds, k.acceptedBy? d = none := by
  rw [settings?, List.findSome?_eq_none_iff]

theorem read_of_inactive (hk : k.Once) (h : Runs k.Happens deeds w w')
    (hnone : k.settings? deeds = none) (hw : k.cell.read w.store = none) :
    k.cell.read w'.store = none := by
  rw [settings?_eq_none_iff] at hnone
  induction h with
  | nil => exact hw
  | cons hd _ ih =>
    have hhead := hnone _ List.mem_cons_self
    refine ih (fun d hd ↦ hnone d (List.mem_cons_of_mem _ hd)) ?_
    cases hd with
    | use hempty _ => exact hempty hw
    | start hstart =>
      obtain ⟨-, rfl⟩ := (hk _ _ _ _ hstart).of_refused (.inl hhead)
      exact hw

theorem read_of_active (hk : k.Once) (h : Runs k.Happens deeds w w')
    (hw : k.cell.read w.store = some (k.hold t x)) :
    k.cell.read w'.store = some (k.hold t (used deeds x)) := by
  induction h generalizing x with
  | nil => exact hw
  | cons hd _ ih =>
    rw [used, List.foldl_cons]
    refine ih ?_
    cases hd with
    | use _ hchange => exact hchange t x hw
    | start hstart =>
      obtain ⟨-, rfl⟩ := (hk _ _ _ _ hstart).of_refused (.inr (by simp [hw]))
      exact hw

theorem exists_read_eq (hk : k.Once) (h : Runs k.Happens deeds w w')
    (hw : k.cell.read w.store = none) :
    ∃ x, k.cell.read w'.store = (k.settings? deeds).map (k.hold · x) := by
  cases hsettings : k.settings? deeds with
  | none => exact ⟨k.initial, read_of_inactive hk h hsettings hw⟩
  | some t =>
    -- The first start with such settings splits the run: the cell is empty up to it and keeps them
    -- behind it.
    obtain ⟨earlier, d, later, rfl, hd, hearlier⟩ := List.findSome?_eq_some_iff.1 hsettings
    obtain ⟨v, hruns, hrest⟩ := h.of_append
    have hv := read_of_inactive hk hruns (settings?_eq_none_iff.2 hearlier) hw
    cases hrest with
    | cons hstep hlater =>
      cases hstep with
      | use => cases hd
      | start hstart =>
        obtain ⟨-, hread⟩ := (hk _ _ _ _ hstart).of_accepted hd hv
        exact ⟨_, read_of_active hk hlater hread⟩

structure Lifecycle (k : Setup υ σ τ κ) (deeds : List (Deed κ)) (w w' : World υ) : Prop where
  inactive : k.settings? deeds = none → k.cell.read w'.store = none
  active : ∀ earlier config result later t, deeds = earlier ++ .start config result :: later →
    k.settings? earlier = none → k.accepted? config = some t →
    k.settings? deeds = some t ∧ k.cell.read w'.store = some (k.hold t (used later k.initial))
  succeeds_iff : ∀ earlier config result later, deeds = earlier ++ .start config result :: later →
    (result = .ok () ↔ k.settings? earlier = none ∧ k.accepted? config ≠ none)
  traceless : ∀ earlier config fault later, deeds = earlier ++ .start config (.error fault) :: later →
    ∃ v, Runs k.Happens earlier w v ∧ Runs k.Happens later v w'

theorem exists_start_of_runs (hk : k.Once) (hw : k.cell.read w.store = none)
    (h : Runs k.Happens (earlier ++ .start config result :: later) w w') :
    ∃ v v', Runs k.Happens earlier w v ∧ (k.cell.read v.store = none ↔ k.settings? earlier = none) ∧
      k.Tries config v result v' ∧ Runs k.Happens later v' w' := by
  obtain ⟨v, hruns, hrest⟩ := h.of_append
  cases hrest with
  | @cons _ _ _ v' _ hstep hlater =>
    cases hstep with
    | start hstart =>
      obtain ⟨x, hx⟩ := exists_read_eq hk hruns hw
      exact ⟨v, v', hruns, by rw [hx, Option.map_eq_none_iff], hk _ _ _ _ hstart, hlater⟩

theorem lifecycle_of_runs (hk : k.Once) (hw : k.cell.read w.store = none)
    (h : Runs k.Happens deeds w w') :
    k.Lifecycle deeds w w' where
  inactive hnone := read_of_inactive hk h hnone hw
  active earlier config result later t hdeeds hearlier haccepted := by
    subst hdeeds
    obtain ⟨v, v', -, hempty, htries, hlater⟩ := exists_start_of_runs hk hw h
    have hfirst : k.settings? (earlier ++ .start config result :: later) = some t := by
      rw [settings?] at hearlier ⊢
      rw [List.findSome?_append, hearlier, Option.none_or, List.findSome?_cons, acceptedBy?, haccepted]
    obtain ⟨-, hread⟩ := htries.of_accepted haccepted (hempty.2 hearlier)
    exact ⟨hfirst, read_of_active hk hlater hread⟩
  succeeds_iff earlier config result later hdeeds := by
    subst hdeeds
    obtain ⟨v, v', -, hempty, htries, -⟩ := exists_start_of_runs hk hw h
    cases htries with
    | accepted htaken hread => simp [hempty.1 hread, htaken]
    | refused hreason =>
      simp only [reduceCtorEq, false_iff, not_and, not_not]
      intro hearlier
      exact hreason.resolve_right (not_not.2 (hempty.2 hearlier))
  traceless earlier config fault later hdeeds := by
    subst hdeeds
    obtain ⟨v, v', hearlier, -, htries, hlater⟩ := exists_start_of_runs hk hw h
    cases htries with
    | refused => exact ⟨v, hearlier, hlater⟩

end Setup

end FrontDoor
