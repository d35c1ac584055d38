import FrontDoor.Proofs.Hooks.Registration

namespace FrontDoor

variable {υ : Type}

namespace PhaseHooks

variable {entries : PhaseHooks υ} {id : String} {hooks : List (Hook υ)}

structure WellFormed (entries : PhaseHooks υ) : Prop where
  nodup : (entries.map (·.pluginId)).Nodup
  nonempty : ∀ e ∈ entries, e.hooks ≠ []

theorem append_of_ne_nil (h : hooks ≠ []) (entries : PhaseHooks υ) (id : String) :
    entries.append id hooks = extend id hooks entries := by
  simp [append, h]

theorem hooksOf_cons (e : HookEntry υ) (entries : PhaseHooks υ) (id : String) :
    hooksOf (e :: entries) id = if e.pluginId = id then e.hooks else entries.hooksOf id := by
  by_cases h : e.pluginId = id <;> simp [hooksOf, h]

theorem count_cons (e : HookEntry υ) (entries : PhaseHooks υ) :
    count (e :: entries) = e.hooks.length + entries.count := by
  simp [count]

theorem ids_extend (entries : PhaseHooks υ) (id : String) (hooks : List (Hook υ)) :
    (extend id hooks entries).map (·.pluginId) =
      entries.map (·.pluginId) ++ if id ∈ entries.map (·.pluginId) then [] else [id] := by
  induction entries with
  | nil => simp [extend]
  | cons e rest ih =>
    by_cases h : e.pluginId = id
    · simp [extend, h]
    · rw [extend, if_neg h, List.map_cons, ih]
      simp [Ne.symm h]

theorem nonempty_extend (hhooks : hooks ≠ []) (h : ∀ e ∈ entries, e.hooks ≠ []) :
    ∀ e ∈ extend id hooks entries, e.hooks ≠ [] := by
  induction entries with
  | nil => simpa [extend] using hhooks
  | cons e rest ih =>
    obtain ⟨hhead, hrest⟩ := List.forall_mem_cons.1 h
    by_cases heq : e.pluginId = id
    · rw [extend, if_pos heq]
      exact List.forall_mem_cons.2 ⟨by simp [hhooks], hrest⟩
    · rw [extend, if_neg heq]
      exact List.forall_mem_cons.2 ⟨hhead, ih hrest⟩

theorem WellFormed.append (h : entries.WellFormed) (id : String) (hooks : List (Hook υ)) :
    (entries.append id hooks).WellFormed := by
  by_cases hhooks : hooks = []
  · subst hhooks
    exact h
  · rw [append_of_ne_nil hhooks]
    refine ⟨?_, nonempty_extend hhooks h.nonempty⟩
    rw [ids_extend]
    split
    · simpa using h.nodup
    · rename_i hnew
      rw [← List.concat_eq_append]
      exact h.nodup.concat hnew

theorem hooksOf_extend (entries : PhaseHooks υ) (id : String) (hooks : List (Hook υ)) (k : String) :
    (extend id hooks entries).hooksOf k = entries.hooksOf k ++ if id = k then hooks else [] := by
  induction entries with
  | nil =>
    rw [extend, hooksOf_cons]
    rfl
  | cons e rest ih =>
    by_cases h : e.pluginId = id
    · subst h
      rw [extend, if_pos rfl, hooksOf_cons, hooksOf_cons]
      split <;> simp
    · rw [extend, if_neg h, hooksOf_cons, hooksOf_cons, ih]
      by_cases hk : e.pluginId = k
      · simp [hk, hk ▸ Ne.symm h]
      · rw [if_neg hk, if_neg hk]

theorem hooksOf_append (entries : PhaseHooks υ) (id : String) (hooks : List (Hook υ)) (k : String) :
    (entries.append id hooks).hooksOf k = entries.hooksOf k ++ if id = k then hooks else [] := by
  by_cases hhooks : hooks = []
  · simp [append, hhooks]
  · rw [append_of_ne_nil hhooks, hooksOf_extend]

theorem count_append (entries : PhaseHooks υ) (id : String) (hooks : List (Hook υ)) :
    (entries.append id hooks).count = entries.count + hooks.length := by
  by_cases hhooks : hooks = []
  · simp [append, hhooks]
  · rw [append_of_ne_nil hhooks]
    induction entries with
    | nil => simp [extend, count]
    | cons e rest ih =>
      by_cases h : e.pluginId = id
      · rw [extend, if_pos h, count_cons, count_cons, List.length_append]
        omega
      · rw [extend, if_neg h, count_cons, count_cons, ih]
        omega

theorem filter_ne_append (entries : PhaseHooks υ) (id : String) (hooks : List (Hook υ)) :
    (entries.append id hooks).filter (fun e ↦ e.pluginId ≠ id) =
      entries.filter fun e ↦ e.pluginId ≠ id := by
  by_cases hhooks : hooks = []
  · simp [append, hhooks]
  · rw [append_of_ne_nil hhooks]
    induction entries with
    | nil => simp [extend]
    | cons e rest ih =>
      by_cases h : e.pluginId = id
      · simp [extend, h]
      · rw [extend, if_neg h, List.filter_cons, List.filter_cons, ih]

theorem hasAny_iff (entries : PhaseHooks υ) : entries.hasAny = true ↔ 0 < entries.count := by
  induction entries with
  | nil => simp [hasAny, count]
  | cons e rest ih =>
    have hcons : hasAny (e :: rest) = (!e.hooks.isEmpty || hasAny rest) := List.any_cons
    rw [hcons, Bool.or_eq_true, ih, count_cons]
    cases e.hooks with
    | nil => simp
    | cons hook hooks =>
      simp only [List.isEmpty_cons, Bool.not_false, true_or, true_iff, List.length_cons]
      omega

theorem mem_ids_iff (h : ∀ e ∈ entries, e.hooks ≠ []) (id : String) :
    id ∈ entries.map (·.pluginId) ↔ entries.hooksOf id ≠ [] := by
  induction entries with
  | nil => simp [hooksOf]
  | cons e rest ih =>
    obtain ⟨hhead, hrest⟩ := List.forall_mem_cons.1 h
    have hmem := ih hrest
    rw [hooksOf_cons, List.map_cons, List.mem_cons]
    by_cases heq : e.pluginId = id
    · simp [heq, hhead]
    · simpa [heq, Ne.symm heq] using hmem

end PhaseHooks

namespace HookRegistry

theorem wellFormed_ofHistory (h : History υ) (p : Phase) : ((ofHistory h).phase p).WellFormed := by
  induction h using List.reverseRecOn with
  | nil => cases p <;> exact ⟨List.nodup_nil, by simp [ofHistory, empty, phase]⟩
  | append_singleton h g ih =>
    rw [ofHistory_concat, phase_register]
    exact ih.append _ _

theorem hookCount_ofHistory (h : History υ) (p : Phase) :
    (ofHistory h).hookCount p = (h.flatMap fun g ↦ g.hooks p).length := by
  induction h using List.reverseRecOn with
  | nil => cases p <;> rfl
  | append_singleton h g ih =>
    rw [hookCount] at ih ⊢
    rw [ofHistory_concat, phase_register, PhaseHooks.count_append, ih, List.flatMap_append,
      List.length_append]
    simp

/-- After any registrations no plugin has two entries for a phase and none an empty one. A plugin
has the hooks of all its registrations, one behind the other; the plugins listed, each once, are
those that have hooks; the count is that of all hooks registered for the phase, and there are hooks
if it is positive. A further registration touches no other plugin, and no phase for which it brings
no hooks. -/
theorem inventory_ofHistory (h : History υ) (p : Phase) :
    let r := ofHistory h
    (r.phase p).WellFormed ∧
    (∀ id, r.hooksOf p id = h.hooksOf p id) ∧
    ((r.pluginIds p).Nodup ∧ ∀ id, id ∈ r.pluginIds p ↔ r.hooksOf p id ≠ []) ∧
    r.hookCount p = (h.flatMap fun g ↦ g.hooks p).length ∧
    (r.hasHooks p = true ↔ 0 < r.hookCount p) ∧
    ∀ g : Registration υ,
      let r' := r.register g.pluginId g.bundle
      (∀ id, id ≠ g.pluginId → r'.hooksOf p id = r.hooksOf p id) ∧
      (r'.phase p).filter (fun e ↦ e.pluginId ≠ g.pluginId) =
        (r.phase p).filter (fun e ↦ e.pluginId ≠ g.pluginId) ∧
      (g.hooks p = [] → r'.phase p = r.phase p) := by
  intro r
  have hwell : (r.phase p).WellFormed := wellFormed_ofHistory h p
  refine ⟨hwell, hooksOf_ofHistory h p, ⟨hwell.nodup, PhaseHooks.mem_ids_iff hwell.nonempty⟩,
    hookCount_ofHistory h p, PhaseHooks.hasAny_iff _, ?_⟩
  intro g r'
  have hphase : r'.phase p = (r.phase p).append g.pluginId (g.hooks p) := phase_register r g p
  refine ⟨?_, ?_, ?_⟩
  · intro id hid
    rw [hooksOf, hphase, PhaseHooks.hooksOf_append, if_neg (Ne.symm hid), List.append_nil]
    rfl
  · rw [hphase, PhaseHooks.filter_ne_append]
  · intro hnone
    rw [hphase, hnone]
    rfl

theorem inventory_ofHistory_repeated :
    let hook : Hook Unit := ⟨.all, fun _ _ ↦ pure (.ok ())⟩
    let h : History Unit :=
      [⟨"b", some ⟨[hook], []⟩⟩, ⟨"a", none⟩, ⟨"a", some ⟨[hook, hook], []⟩⟩, ⟨"b", some ⟨[hook], []⟩⟩]
    let g : Registration Unit := ⟨"b", some ⟨[hook], []⟩⟩
    let r := ofHistory h
    r.hookCount .before = 4 ∧ r.hasHooks .before = true ∧ "a" ∈ r.pluginIds .before ∧
      "a" ≠ g.pluginId ∧ (r.register g.pluginId g.bundle).hooksOf .before "a" = r.hooksOf .before "a" ∧
      g.hooks .after = [] ∧ (r.register g.pluginId g.bundle).phase .after = r.phase .after := by
  intro hook h g r
  obtain ⟨-, -, ⟨-, hlisted⟩, hcount, hhas, htouched⟩ := inventory_ofHistory h .before
  obtain ⟨-, -, -, -, -, hafter⟩ := inventory_ofHistory h .after
  have hfour : r.hookCount .before = 4 := hcount.trans rfl
  have hother : "a" ≠ g.pluginId := by decide
  refine ⟨hfour, hhas.2 (by rw [hfour]; decide), (hlisted "a").2 ?_, hother, (htouched g).1 "a" hother,
    rfl, (hafter g).2.2 rfl⟩
  exact List.cons_ne_nil hook [hook]

end HookRegistry

end FrontDoor
