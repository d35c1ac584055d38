import FrontDoor.HookRegistry
import Mathlib.Data.List.Induction
import Mathlib.Data.List.Nodup

namespace FrontDoor

variable {υ : Type}

structure Registration (υ : Type) where
  pluginId : String
  bundle : Option (HookBundle υ)

def Registration.hooks (g : Registration υ) (p : Phase) : List (Hook υ) :=
  match g.bundle with
  | some b => b.phase p
  | none => []

abbrev History (υ : Type) := List (Registration υ)

namespace History

def hooksOf (h : History υ) (p : Phase) (id : String) : List (Hook υ) :=
  (h.filter fun g ↦ g.pluginId = id).flatMap fun g ↦ g.hooks p

/-- The plugins that brought hooks for a phase, each once, in order of the first registration that
brought any. -/
def plugins (h : History υ) (p : Phase) : List String :=
  ((h.filter fun g ↦ !(g.hooks p).isEmpty).map (·.pluginId)).eraseDups

theorem hooksOf_concat (h : History υ) (g : Registration υ) (p : Phase) (id : String) :
    hooksOf (h ++ [g]) p id = h.hooksOf p id ++ if g.pluginId = id then g.hooks p else [] := by
  by_cases hid : g.pluginId = id <;> simp [hooksOf, List.filter_append, hid]

theorem eraseDups_concat (ids : List String) (id : String) :
    (ids ++ [id]).eraseDups = if id ∈ ids then ids.eraseDups else ids.eraseDups ++ [id] := by
  rw [List.eraseDups_append]
  split
  · rename_i h
    simp [List.removeAll, h]
  · rename_i h
    simp [List.removeAll, h, List.eraseDups_cons]

theorem plugins_concat_of_empty {g : Registration υ} {p : Phase} (hg : g.hooks p = [])
    (h : History υ) :
    plugins (h ++ [g]) p = h.plugins p := by
  simp [plugins, List.filter_append, hg]

theorem plugins_concat {g : Registration υ} {p : Phase} (hg : g.hooks p ≠ []) (h : History υ) :
    plugins (h ++ [g]) p =
      if g.pluginId ∈ h.plugins p then h.plugins p else h.plugins p ++ [g.pluginId] := by
  have hmem : g.pluginId ∈ h.plugins p ↔
      g.pluginId ∈ (h.filter fun g ↦ !(g.hooks p).isEmpty).map (·.pluginId) := List.mem_eraseDups
  have hlast : (h ++ [g]).filter (fun g ↦ !(g.hooks p).isEmpty) =
      (h.filter fun g ↦ !(g.hooks p).isEmpty) ++ [g] := by
    simp [List.filter_append, hg]
  simp only [hmem]
  simp only [plugins]
  rw [hlast, List.map_append, List.map_singleton, eraseDups_concat]

theorem nodup_plugins (h : History υ) (p : Phase) : (h.plugins p).Nodup := by
  induction h using List.reverseRecOn with
  | nil => exact List.nodup_nil
  | append_singleton h g ih =>
    by_cases hg : g.hooks p = []
    · rw [plugins_concat_of_empty hg]
      exact ih
    · rw [plugins_concat hg]
      split
      · exact ih
      · rename_i hnew
        exact List.nodup_append.2 ⟨ih, List.nodup_singleton _, by
          intro id hid _ hlast heq
          rw [List.mem_singleton.1 hlast] at heq
          exact hnew (heq ▸ hid)⟩

theorem mem_plugins (h : History υ) (p : Phase) (id : String) :
    id ∈ h.plugins p ↔ h.hooksOf p id ≠ [] := by
  simp only [plugins, List.mem_eraseDups, hooksOf, ne_eq, List.flatMap_eq_nil_iff, List.mem_map,
    List.mem_filter]
  simp only [decide_eq_true_eq, Bool.not_eq_eq_eq_not, Bool.not_true, List.isEmpty_eq_false_iff,
    and_imp]
  push Not
  constructor
  · rintro ⟨g, ⟨hg, hne⟩, rfl⟩
    exact ⟨g, hg, rfl, hne⟩
  · rintro ⟨g, hg, rfl, hne⟩
    exact ⟨g, ⟨hg, hne⟩, rfl⟩

end History

namespace PhaseHooks

/-- Extending entries with distinct identifiers reaches the entry of that identifier, or a new last
one. -/
theorem extend_map (id : String) (hooks : List (Hook υ)) (f : String → List (Hook υ))
    {ids : List String} (hids : ids.Nodup) :
    extend id hooks (ids.map fun i ↦ ⟨i, f i⟩) =
      (ids.map fun i ↦ ⟨i, f i ++ if i = id then hooks else []⟩) ++ if id ∈ ids then []
        else [⟨id, hooks⟩] := by
  induction ids with
  | nil => simp [extend]
  | cons i ids ih =>
    obtain ⟨hi, hrest⟩ := List.nodup_cons.1 hids
    simp only [List.map_cons, extend]
    by_cases heq : i = id
    · have hsame : (ids.map fun j ↦ (⟨j, f j ++ if j = id then hooks else []⟩ : HookEntry υ)) =
          ids.map fun j ↦ ⟨j, f j⟩ := by
        refine List.map_congr_left fun j hj ↦ ?_
        have hne : j ≠ id := fun h ↦ hi (heq ▸ h ▸ hj)
        simp [hne]
      simp [heq, hsame]
    · rw [if_neg heq, ih hrest]
      have hne : id ≠ i := fun h ↦ heq h.symm
      simp [heq, hne]

theorem hooksOf_map (f : String → List (Hook υ)) (ids : List String) (id : String) :
    hooksOf (ids.map fun i ↦ ⟨i, f i⟩) id = if id ∈ ids then f id else [] := by
  induction ids with
  | nil => rfl
  | cons i ids ih =>
    by_cases heq : i = id
    · simp [hooksOf, heq]
    · have hne : id ≠ i := fun h ↦ heq h.symm
      have hskip : hooksOf ((i :: ids).map fun i ↦ (⟨i, f i⟩ : HookEntry υ)) id =
          hooksOf (ids.map fun i ↦ ⟨i, f i⟩) id := by
        simp [hooksOf, heq]
      rw [hskip, ih]
      simp [hne]

end PhaseHooks

namespace HookRegistry

def ofHistory (h : History υ) : HookRegistry υ :=
  h.foldl (fun r g ↦ r.register g.pluginId g.bundle) empty

theorem ofHistory_concat (h : History υ) (g : Registration υ) :
    ofHistory (h ++ [g]) = (ofHistory h).register g.pluginId g.bundle := by
  simp only [ofHistory, List.foldl_append, List.foldl_cons, List.foldl_nil]

theorem phase_register (r : HookRegistry υ) (g : Registration υ) (p : Phase) :
    (r.register g.pluginId g.bundle).phase p = (r.phase p).append g.pluginId (g.hooks p) := by
  rcases g with ⟨id, bundle | bundle⟩
  · cases p <;> rfl
  · cases p <;> rfl

def entriesFor (h : History υ) (p : Phase) : PhaseHooks υ :=
  (h.plugins p).map fun id ↦ ⟨id, h.hooksOf p id⟩

theorem append_entriesFor (h : History υ) (g : Registration υ) (p : Phase) :
    (entriesFor h p).append g.pluginId (g.hooks p) = entriesFor (h ++ [g]) p := by
  by_cases hg : g.hooks p = []
  · simp [entriesFor, PhaseHooks.append, History.plugins_concat_of_empty, History.hooksOf_concat, hg]
  · have happ : (entriesFor h p).append g.pluginId (g.hooks p) =
        (entriesFor h p).extend g.pluginId (g.hooks p) := by
      simp [PhaseHooks.append, hg]
    rw [happ, entriesFor, PhaseHooks.extend_map _ _ _ (h.nodup_plugins p), entriesFor,
      History.plugins_concat hg]
    simp only [History.hooksOf_concat, eq_comm (a := g.pluginId)]
    by_cases hmem : g.pluginId ∈ h.plugins p
    · simp [hmem]
    · have hnone : h.hooksOf p g.pluginId = [] := by
        by_contra hne
        exact hmem ((h.mem_plugins p g.pluginId).2 hne)
      simp only [hmem, if_false, List.map_append, List.map_singleton, hnone, List.nil_append, if_true]

/-- The entries for a phase are the plugins that brought hooks for it, in order of their first
registration that did, each with all that it brought. -/
theorem phase_ofHistory (h : History υ) (p : Phase) : (ofHistory h).phase p = entriesFor h p := by
  -- A registration acts on what all earlier ones left, so the induction takes the last one off.
  induction h using List.reverseRecOn with
  | nil => cases p <;> rfl
  | append_singleton h g ih => rw [ofHistory_concat, phase_register, ih, append_entriesFor]

example (x y z : Hook υ) :
    (ofHistory [⟨"b", some ⟨[x], []⟩⟩, ⟨"c", some ⟨[], [y]⟩⟩, ⟨"a", none⟩, ⟨"a", some ⟨[y], []⟩⟩,
      ⟨"b", some ⟨[z], []⟩⟩]).before = [⟨"b", [x, z]⟩, ⟨"a", [y]⟩] := by
  rfl

theorem hooksOf_ofHistory (h : History υ) (p : Phase) (id : String) :
    (ofHistory h).hooksOf p id = h.hooksOf p id := by
  rw [HookRegistry.hooksOf, phase_ofHistory, entriesFor, PhaseHooks.hooksOf_map]
  split
  · rfl
  · rename_i hmem
    by_contra hne
    exact hmem ((h.mem_plugins p id).2 fun hnil ↦ hne hnil.symm)

end HookRegistry

end FrontDoor
