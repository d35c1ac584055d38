import FrontDoor.EndpointTable
import FrontDoor.Proofs.Dict

namespace FrontDoor

variable {ε : Type}

namespace EndpointTable

variable {t : EndpointTable ε} {owner path : String} {endpoint : ε} {es : List (String × ε)}

theorem get?_endpoints (t : EndpointTable ε) (path : String) :
    t.endpoints.get? path = (t.get? path).map (·.endpoint) :=
  Dict.get?_mapValues t _ path

theorem add_of_free (h : t.get? path = none) (owner : String) (endpoint : ε) :
    t.add owner path endpoint = .ok (t.insert path ⟨owner, endpoint⟩) := by
  simp only [add, owner?, h, Option.map_none]

theorem add_of_taken {o : OwnedEndpoint ε} (h : t.get? path = some o) (owner : String) (endpoint : ε) :
    t.add owner path endpoint = .error (.endpointConflict path owner o.owner) := by
  simp only [add, owner?, h, Option.map_some]

def withAll (t : EndpointTable ε) (owner : String) (es : List (String × ε)) : EndpointTable ε :=
  es.foldl (fun t e ↦ t.insert e.1 ⟨owner, e.2⟩) t

theorem get?_withAll (t : EndpointTable ε) (owner : String) (h : es.Pairwise fun a b ↦ a.1 < b.1)
    (q : String) :
    (t.withAll owner es).get? q = ((Dict.find q es).map (⟨owner, ·⟩)).or (t.get? q) := by
  induction es generalizing t with
  | nil => rfl
  | cons e es ih =>
    obtain ⟨hhead, hrest⟩ := List.pairwise_cons.1 h
    rw [withAll, List.foldl_cons, ← withAll, ih _ hrest, Dict.get?_insert, Dict.find]
    by_cases hq : e.1 = q
    · have hnone : Dict.find q es = none := Dict.find_eq_none_of_lt fun a ha ↦ hq ▸ hhead a ha
      simp [hq, hnone]
    · simp [hq]

theorem get?_withAll_below (t : EndpointTable ε) (owner path : String) (d : Dict ε) (q : String) :
    (t.withAll owner (d.entries.filter fun e ↦ e.1 < path)).get? q =
      (if q < path then (d.get? q).map (⟨owner, ·⟩) else none).or (t.get? q) := by
  rw [get?_withAll t owner (d.ascending.filter _), Dict.find_filter_lt]
  split <;> rfl

theorem addAll_cases (t : EndpointTable ε) (owner : String) (h : es.Pairwise fun a b ↦ a.1 < b.1) :
    (∀ e ∈ es, t.get? e.1 = none) ∧ addAll owner es t = (t.withAll owner es, .ok ()) ∨
    ∃ path endpoint o, (path, endpoint) ∈ es ∧ t.get? path = some o ∧
      (∀ e ∈ es, e.1 < path → t.get? e.1 = none) ∧
      addAll owner es t =
        (t.withAll owner (es.filter fun e ↦ e.1 < path),
          .error (.endpointConflict path owner o.owner)) := by
  induction es generalizing t with
  | nil => exact .inl ⟨by simp, rfl⟩
  | cons e es ih =>
    obtain ⟨hhead, hrest⟩ := List.pairwise_cons.1 h
    cases ht : t.get? e.1 with
    | some o =>
      have habove : ∀ a ∈ e :: es, ¬ a.1 < e.1 := by
        intro a ha hlt
        rcases List.mem_cons.1 ha with rfl | ha
        · exact String.lt_irrefl _ hlt
        · exact String.lt_irrefl _ (String.lt_trans (hhead a ha) hlt)
      have hnil : ((e :: es).filter fun a ↦ a.1 < e.1) = [] :=
        List.filter_eq_nil_iff.2 fun a ha ↦ by simpa using habove a ha
      refine .inr ⟨e.1, e.2, o, List.mem_cons_self, ht, fun a ha hlt ↦ absurd hlt (habove a ha), ?_⟩
      rw [hnil, addAll, add_of_taken ht]
      rfl
    | none =>
      have hstep : addAll owner (e :: es) t = addAll owner es (t.insert e.1 ⟨owner, e.2⟩) := by
        rw [addAll, add_of_free ht]
      have hother : ∀ a ∈ es, Dict.get? (t.insert e.1 ⟨owner, e.2⟩) a.1 = t.get? a.1 := by
        intro a ha
        rw [Dict.get?_insert, if_neg]
        intro heq
        exact String.lt_irrefl _ (heq ▸ hhead a ha)
      rcases ih (t.insert e.1 ⟨owner, e.2⟩) hrest
        with ⟨hfree, hadd⟩ | ⟨path, ep, o, hmem, htaken, hfree, hadd⟩
      · refine .inl ⟨?_, hstep.trans hadd⟩
        intro a ha
        rcases List.mem_cons.1 ha with rfl | ha
        · exact ht
        · exact (hother a ha).symm.trans (hfree a ha)
      · have hlt : e.1 < path := hhead _ hmem
        refine .inr ⟨path, ep, o, List.mem_cons_of_mem _ hmem, (hother _ hmem).symm.trans htaken,
          ?_, ?_⟩
        · intro a ha halt
          rcases List.mem_cons.1 ha with rfl | ha
          · exact ht
          · exact (hother a ha).symm.trans (hfree a ha halt)
        · rw [hstep, hadd, List.filter_cons, if_pos (by simpa using hlt)]
          rfl

end EndpointTable

end FrontDoor
