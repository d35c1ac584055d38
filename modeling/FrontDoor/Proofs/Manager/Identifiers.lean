import FrontDoor.Proofs.Manager.Start
import Mathlib.Data.List.Nodup

namespace FrontDoor

/-- An identifier that stands at an earlier position stands at this one again. -/
def RepeatsAt (ids : List String) (k : Nat) : Prop :=
  ∃ id, ids[k]? = some id ∧ ∃ j < k, ids[j]? = some id

/-- The least position that repeats an identifier of an earlier one, and the identifier. -/
structure FirstRepeat (ids : List String) (k : Nat) (id : String) : Prop where
  here : ids[k]? = some id
  repeated : ∃ j < k, ids[j]? = some id
  least : ∀ i < k, ¬ RepeatsAt ids i

section

variable {ids before rest : List String} {id : String} {k : Nat}

theorem nodup_iff_not_repeatsAt : ids.Nodup ↔ ∀ k, ¬ RepeatsAt ids k := by
  rw [List.nodup_iff_getElem?_ne_getElem?]
  constructor
  · rintro hne k ⟨id, hk, j, hj, hid⟩
    obtain ⟨hlt, -⟩ := List.getElem?_eq_some_iff.1 hk
    exact hne j k hj hlt (hid.trans hk.symm)
  · intro hno j k hj hlt heq
    have hk : ids[k]? = some ids[k] := List.getElem?_eq_getElem hlt
    exact hno k ⟨ids[k], hk, j, hj, heq.trans hk⟩

theorem repeatsAt_of_append (hk : k < before.length) (h : RepeatsAt (before ++ rest) k) :
    RepeatsAt before k := by
  obtain ⟨id, hid, j, hj, hrepeated⟩ := h
  rw [List.getElem?_append_left hk] at hid
  rw [List.getElem?_append_left (Nat.lt_trans hj hk)] at hrepeated
  exact ⟨id, hid, j, hj, hrepeated⟩

theorem firstRepeat_of_mem (hbefore : before.Nodup) (hmem : id ∈ before) (rest : List String) :
    FirstRepeat (before ++ id :: rest) before.length id where
  here := by rw [List.getElem?_append_right (Nat.le_refl _), Nat.sub_self, List.getElem?_cons_zero]
  repeated := by
    obtain ⟨j, hj, hid⟩ := List.getElem_of_mem hmem
    refine ⟨j, hj, ?_⟩
    rw [List.getElem?_append_left hj, List.getElem?_eq_getElem hj, hid]
  least i hi hrepeats := nodup_iff_not_repeatsAt.1 hbefore i (repeatsAt_of_append hi hrepeats)

theorem FirstRepeat.repeatsAt (h : FirstRepeat ids k id) : RepeatsAt ids k := ⟨id, h.here, h.repeated⟩

theorem FirstRepeat.unique {j : Nat} {other : String} (h : FirstRepeat ids k id)
    (h' : FirstRepeat ids j other) :
    id = other := by
  rcases Nat.lt_trichotomy k j with hlt | rfl | hlt
  · exact absurd h.repeatsAt (h'.least k hlt)
  · exact Option.some.inj (h.here.symm.trans h'.here)
  · exact absurd h'.repeatsAt (h.least j hlt)

end

namespace PluginList

variable {H : Host} {υ : Type} {ps : PluginList H υ} {p : Plugin H υ} {before : List String}
  {id : String} {k : Nat}

theorem repeatedId?_cases (hbefore : before.Nodup) (rest : List String) :
    repeatedId? before.reverse rest = none ∧ (before ++ rest).Nodup ∨
    ∃ k id, repeatedId? before.reverse rest = some id ∧ FirstRepeat (before ++ rest) k id := by
  -- On what is still to be searched. What was seen is all that stands before, the last one first,
  -- and repeats nothing.
  induction rest generalizing before with
  | nil => exact .inl ⟨rfl, by rwa [List.append_nil]⟩
  | cons id rest ih =>
    by_cases hmem : id ∈ before
    · refine .inr ⟨before.length, id, ?_, firstRepeat_of_mem hbefore hmem rest⟩
      rw [repeatedId?, if_pos (by simpa using hmem)]
    · have hnext : repeatedId? before.reverse (id :: rest) =
          repeatedId? (before ++ [id]).reverse rest := by
        rw [repeatedId?, if_neg (by simpa using hmem), List.reverse_append]
        rfl
      have hnodup : (before ++ [id]).Nodup := by
        rw [← List.concat_eq_append]
        exact hbefore.concat hmem
      rw [hnext, List.append_cons before id rest]
      exact ih hnodup

theorem ensureUniqueIds_cases (ps : PluginList H υ) :
    ps.ensureUniqueIds = .ok () ∧ ps.ids.Nodup ∨
    ∃ k id, ps.ensureUniqueIds = .error (.duplicatePlugin id) ∧ FirstRepeat ps.ids k id := by
  rcases repeatedId?_cases List.nodup_nil ps.ids with ⟨hnone, hnodup⟩ | ⟨k, id, hsome, hfirst⟩
  · refine .inl ⟨?_, hnodup⟩
    rw [ensureUniqueIds, ← List.reverse_nil, hnone]
  · refine .inr ⟨k, id, ?_, hfirst⟩
    rw [ensureUniqueIds, ← List.reverse_nil, hsome]

theorem getElem?_ids (h : k < ps.length) : ps.ids[k]? = some ps[k].id := by
  rw [ids, List.getElem?_map, List.getElem?_eq_getElem h, Option.map_some]

theorem withId?_eq_some_iff :
    ps.withId? id = some p ↔ ∃ k : Nat, ps[k]? = some p ∧ p.id = id ∧ ∀ j < k,
      ps.ids[j]? ≠ some id := by
  rw [withId?, List.find?_eq_some_iff_getElem]
  constructor
  · rintro ⟨hid, k, hk, rfl, hbefore⟩
    refine ⟨k, List.getElem?_eq_getElem hk, of_decide_eq_true hid, ?_⟩
    intro j hj
    rw [getElem?_ids (Nat.lt_trans hj hk)]
    simpa using hbefore j hj
  · rintro ⟨k, hget, hid, hbefore⟩
    obtain ⟨hk, rfl⟩ := List.getElem?_eq_some_iff.1 hget
    refine ⟨decide_eq_true hid, k, hk, rfl, ?_⟩
    intro j hj
    have hother := hbefore j hj
    rw [getElem?_ids (Nat.lt_trans hj hk)] at hother
    simpa using hother

theorem hasId_iff : ps.hasId id = true ↔ id ∈ ps.ids := by
  rw [hasId, withId?, List.find?_isSome, ids, List.mem_map]
  simp only [decide_eq_true_eq]

theorem withId?_of_nodup (h : ps.ids.Nodup) (hp : p ∈ ps) : ps.withId? p.id = some p := by
  obtain ⟨k, hk, rfl⟩ := List.getElem_of_mem hp
  refine withId?_eq_some_iff.2 ⟨k, List.getElem?_eq_getElem hk, rfl, ?_⟩
  intro j hj hsame
  exact nodup_iff_not_repeatsAt.1 h k ⟨_, getElem?_ids hk, j, hj, hsame⟩

end PluginList

namespace Manager

variable {H : Host} {υ : Type} {ps : PluginList H υ} {m : Manager H υ}

theorem ofDistinctPlugins_cases (ps : PluginList H υ) :
    ofDistinctPlugins ps = .ok (ofPlugins ps) ∧ ps.ids.Nodup ∨
    ∃ k id, ofDistinctPlugins ps = .error (.duplicatePlugin id) ∧ FirstRepeat ps.ids k id := by
  rcases ps.ensureUniqueIds_cases with ⟨hok, hnodup⟩ | ⟨k, id, herror, hfirst⟩
  · refine .inl ⟨?_, hnodup⟩
    rw [ofDistinctPlugins, hok]
    rfl
  · refine .inr ⟨k, id, ?_, hfirst⟩
    rw [ofDistinctPlugins, herror]
    rfl

theorem ofDistinctPlugins_eq_ok_iff :
    ofDistinctPlugins ps = .ok m ↔ ps.ids.Nodup ∧ m = ofPlugins ps := by
  rcases ofDistinctPlugins_cases ps with ⟨hok, hnodup⟩ | ⟨k, id, herror, hfirst⟩
  · rw [hok, Except.ok.injEq, eq_comm, and_iff_right hnodup]
  · rw [herror]
    refine iff_of_false nofun ?_
    rintro ⟨hnodup, -⟩
    exact nodup_iff_not_repeatsAt.1 hnodup k hfirst.repeatsAt

theorem ofDistinctPlugins_eq_error_iff {e : PluginError} :
    ofDistinctPlugins ps = .error e ↔ ∃ k id, FirstRepeat ps.ids k id ∧ e = .duplicatePlugin id := by
  rcases ofDistinctPlugins_cases ps with ⟨hok, hnodup⟩ | ⟨k, id, herror, hfirst⟩
  · rw [hok]
    refine iff_of_false nofun ?_
    rintro ⟨k, id, hfirst, -⟩
    exact nodup_iff_not_repeatsAt.1 hnodup k hfirst.repeatsAt
  · rw [herror, Except.error.injEq]
    constructor
    · rintro rfl
      exact ⟨k, id, hfirst, rfl⟩
    · rintro ⟨_, other, hother, rfl⟩
      rw [hfirst.unique hother]

/-- A manager for distinct plugins is made exactly when no two positions have one identifier, and it
is the manager that is made without the check; otherwise the identifier is named that the least
possible position repeats. The manager for distinct plugins finds each of them by its identifier.
Without the check an identifier finds the plugin at the least position that has it, and it is known
exactly when some position has it. -/
theorem lookups_by_id (ps : PluginList H υ) :
    (∀ m, ofDistinctPlugins ps = .ok m ↔ ps.ids.Pairwise (· ≠ ·) ∧ m = ofPlugins ps) ∧
    (∀ e, ofDistinctPlugins ps = .error e ↔ ∃ k id, FirstRepeat ps.ids k id ∧
      e = .duplicatePlugin id) ∧
    (∀ m, ofDistinctPlugins ps = .ok m → ∀ p ∈ ps, m.plugin? p.id = some p) ∧
    (∀ id p, (ofPlugins ps).plugin? id = some p ↔
      ∃ k : Nat, ps[k]? = some p ∧ p.id = id ∧ ∀ j < k, ps.ids[j]? ≠ some id) ∧
    ∀ id, (ofPlugins ps).hasPlugin id = true ↔ id ∈ ps.ids := by
  refine ⟨fun m ↦ ofDistinctPlugins_eq_ok_iff, fun e ↦ ofDistinctPlugins_eq_error_iff, ?_,
    fun id p ↦ PluginList.withId?_eq_some_iff, fun id ↦ PluginList.hasId_iff⟩
  intro m hm p hp
  obtain ⟨hnodup, rfl⟩ := ofDistinctPlugins_eq_ok_iff.1 hm
  exact PluginList.withId?_of_nodup hnodup hp

theorem lookups_by_id_repeated :
    let numbered (id path : String) : Plugin textHost Unit := textPlugin id [path] []
    let ps : PluginList textHost Unit :=
      [numbered "b" "/0", numbered "z" "/1", numbered "c" "/2", numbered "z" "/3", numbered "b" "/4"]
    ofDistinctPlugins ps = .error (.duplicatePlugin "z") ∧
      (ofPlugins ps).plugin? "b" = some (numbered "b" "/0") ∧ ¬ (ofPlugins ps).hasPlugin "d" = true ∧
      ofDistinctPlugins (ps.take 3) = .ok (ofPlugins (ps.take 3)) ∧
      (ofPlugins (ps.take 3)).plugin? "z" = some (numbered "z" "/1") := by
  intro numbered ps
  obtain ⟨-, hrefused, -, hfinds, hknown⟩ := lookups_by_id ps
  obtain ⟨hmade, -, hown, -⟩ := lookups_by_id (ps.take 3)
  have hseen : ["b", "z", "c"].Nodup := by decide
  have hfirst : FirstRepeat ps.ids 3 "z" := firstRepeat_of_mem hseen (by decide) ["b"]
  have htaken : ofDistinctPlugins (ps.take 3) = .ok (ofPlugins (ps.take 3)) :=
    (hmade _).2 ⟨by decide, rfl⟩
  refine ⟨(hrefused _).2 ⟨3, "z", hfirst, rfl⟩, (hfinds "b" _).2 ⟨0, rfl, rfl, nofun⟩, ?_, htaken,
    hown _ htaken (numbered "z" "/1") (.tail _ (.head _))⟩
  rw [hknown]
  decide

end Manager

end FrontDoor
