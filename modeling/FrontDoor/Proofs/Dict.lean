import FrontDoor.Dict
import FrontDoor.Json.Basic
import Mathlib.Data.List.Nodup
import Mathlib.Data.List.Perm.Basic

namespace FrontDoor

namespace Dict

variable {α β : Type}

theorem find_filter_lt (bound key : String) {es : List (String × α)} :
    find key (es.filter fun e ↦ e.1 < bound) = if key < bound then find key es else none := by
  induction es with
  | nil => simp [find]
  | cons e es ih =>
    rw [List.filter_cons]
    by_cases hb : e.1 < bound
    · rw [if_pos (decide_eq_true hb), find, find, ih]
      by_cases hk : e.1 = key
      · rw [if_pos hk, if_pos hk, if_pos (hk ▸ hb)]
      · rw [if_neg hk, if_neg hk]
    · rw [if_neg (mt of_decide_eq_true hb), ih]
      by_cases hk : e.1 = key
      · rw [if_neg (hk ▸ hb), if_neg (hk ▸ hb)]
      · rw [find, if_neg hk]

theorem ext_get? {d e : Dict α} (h : ∀ key, d.get? key = e.get? key) : d = e := by
  have hne (d : Dict α) : d.entries.Nodup := by
    refine d.ascending.imp fun {a b} hlt heq ↦ ?_
    rw [heq] at hlt
    exact String.lt_irrefl _ hlt
  have hperm : d.entries.Perm e.entries := by
    refine (List.perm_ext_iff_of_nodup (hne d) (hne e)).2 fun x ↦ ?_
    rw [d.mem_entries_iff x.1 x.2, e.mem_entries_iff x.1 x.2, h]
  have hentries : d.entries = e.entries := by
    refine hperm.eq_of_pairwise (fun a b _ _ hab hba ↦ ?_) d.ascending e.ascending
    exact absurd (String.lt_trans hab hba) (String.lt_irrefl _)
  rcases d with ⟨des, _⟩
  rcases e with ⟨ees, _⟩
  obtain rfl : des = ees := hentries
  rfl

theorem mapValues_insert (d : Dict α) (f : α → β) (key : String) (value : α) :
    (d.insert key value).mapValues (fun _ ↦ f) = (d.mapValues fun _ ↦ f).insert key (f value) := by
  refine ext_get? fun k ↦ ?_
  rw [get?_mapValues, get?_insert, get?_insert, get?_mapValues]
  split <;> rfl

theorem insert_comm (d : Dict α) {key key' : String} (h : key ≠ key') (value value' : α) :
    (d.insert key value).insert key' value' = (d.insert key' value').insert key value := by
  refine ext_get? fun k ↦ ?_
  rw [get?_insert, get?_insert, get?_insert, get?_insert]
  by_cases hk : key' = k
  · rw [if_pos hk, if_pos hk, if_neg (hk ▸ h)]
  · rw [if_neg hk, if_neg hk]

theorem ofList_of_perm {es fs : List (String × α)} (hperm : es.Perm fs)
    (hkeys : (es.map (·.1)).Nodup) :
    ofList es = ofList fs := by
  refine hperm.foldl_eq' (fun e he e' he' d ↦ ?_) empty
  by_cases hkey : e.1 = e'.1
  · rw [List.inj_on_of_nodup_map hkeys he he' hkey]
  · exact d.insert_comm hkey e.2 e'.2

theorem put_eq_concat {key : String} (value : α) {es : List (String × α)} (h : ∀ e ∈ es, e.1 < key) :
    put key value es = es ++ [(key, value)] := by
  induction es with
  | nil => rfl
  | cons e es ih =>
    have hlt := h e List.mem_cons_self
    rw [put, if_neg (String.lt_asymm hlt), if_pos hlt, ih fun d hd ↦ h d (List.mem_cons_of_mem e hd)]
    rfl

theorem foldl_put_of_pairwise {es fs : List (String × α)}
    (h : (es ++ fs).Pairwise fun a b ↦ a.1 < b.1) :
    fs.foldl (fun acc e ↦ put e.1 e.2 acc) es = es ++ fs := by
  induction fs generalizing es with
  | nil => exact (List.append_nil es).symm
  | cons f fs ih =>
    have hlast : ∀ e ∈ es, e.1 < f.1 :=
      fun e he ↦ (List.pairwise_append.1 h).2.2 e he f List.mem_cons_self
    rw [List.append_cons] at h ⊢
    rw [List.foldl_cons, put_eq_concat f.2 hlast, ih h]

theorem entries_ofList (es : List (String × α)) :
    (ofList es).entries = es.foldl (fun acc e ↦ put e.1 e.2 acc) [] :=
  (List.foldl_hom (f := entries) fun _ _ ↦ rfl).symm

end Dict

/-- The members of an object may be given in any order. -/
theorem Json.ofMembers_of_perm {ms ns : List (String × Json)} (hperm : ms.Perm ns)
    (hkeys : (ns.map (·.1)).Pairwise (· < ·)) : ofMembers ms = .object ns := by
  have hnodup : (ms.map (·.1)).Nodup := by
    refine ((hperm.map _).nodup_iff).2 (hkeys.imp fun {a b} hlt heq ↦ ?_)
    rw [heq] at hlt
    exact String.lt_irrefl b hlt
  have hascending : ([] ++ ns).Pairwise fun (a b : String × Json) ↦ a.1 < b.1 :=
    List.pairwise_map.1 hkeys
  rw [ofMembers, ← Dict.entries_ofList, Dict.ofList_of_perm hperm hnodup, Dict.entries_ofList,
    Dict.foldl_put_of_pairwise hascending]
  rfl

end FrontDoor
