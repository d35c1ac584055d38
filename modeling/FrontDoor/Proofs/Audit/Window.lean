import FrontDoor.Proofs.Audit.Listing

namespace FrontDoor.Audit.Log

variable {capacity : Nat} {pushed : List Record}

theorem new_eq_ok_iff {requested : Nat} {log : Log} : new requested = .ok log ↔
    max requested 1 * recordBytes ≤ maxBytes ∧ log = ofRecords (max requested 1) [] := by
  rw [new, ofRecords, List.rtake_nil]
  split
  · rename_i hlarge
    simp [Nat.not_le.2 hlarge]
  · rename_i hfits
    simp only [Except.ok.injEq, Nat.not_lt.1 hfits, true_and]
    exact eq_comm

theorem pushAll_ofRecords (hcapacity : 0 < capacity) (pushed : List Record) :
    pushed.foldl push (ofRecords capacity []) = ofRecords capacity pushed := by
  induction pushed using List.reverseRecOn with
  | nil => rfl
  | append_singleton pushed r ih =>
    rw [List.foldl_append, ih, List.foldl_cons, List.foldl_nil, push_ofRecords hcapacity]

theorem size_ofRecords (capacity : Nat) (pushed : List Record) :
    (ofRecords capacity pushed).size = min pushed.length capacity := by
  rw [size, ofRecords]
  dsimp only
  rw [List.rtake, List.length_drop]
  omega

structure Holds (capacity : Nat) (pushed : List Record) (log : Log) : Prop where
  newest : log.entries <:+ pushed
  size : log.size = min pushed.length capacity
  bounded : log.size ≤ capacity
  recent : ∀ limit, log.recent limit = (pushed.rtake (min limit (min capacity pushed.length))).reverse
  keeps : pushed.length < capacity → ∀ r, (log.push r).entries = log.entries ++ [r]
  loses : capacity ≤ pushed.length → ∀ r, ∃ oldest kept, log.entries = oldest :: kept ∧
    (log.push r).entries = kept ++ [r]

theorem holds_ofRecords (hcapacity : 0 < capacity) (pushed : List Record) :
    Holds capacity pushed (ofRecords capacity pushed) where
  newest := List.drop_suffix _ _
  size := size_ofRecords capacity pushed
  bounded := by
    rw [size_ofRecords]
    exact Nat.min_le_right _ _
  recent limit := by
    have htake : pushed.reverse.take (min limit capacity) =
        pushed.reverse.take (min limit (min capacity pushed.length)) := by
      rw [← Nat.min_assoc, ← List.length_reverse, ← List.take_eq_take_min]
    rw [recent_ofRecords, htake, List.rtake_eq_reverse_take_reverse, List.reverse_reverse]
  keeps hspare r := by
    have hsize := size_ofRecords capacity pushed
    rw [Log.size] at hsize
    have hroom : (ofRecords capacity pushed).entries.length ≠
        (ofRecords capacity pushed).capacity := by
      rw [hsize, ofRecords]
      dsimp only
      omega
    rw [push, if_neg hroom]
  loses hfull r := by
    have hsize := size_ofRecords capacity pushed
    rw [Log.size] at hsize
    have hlength : (ofRecords capacity pushed).entries.length =
        (ofRecords capacity pushed).capacity := by
      rw [hsize, ofRecords]
      dsimp only
      omega
    obtain ⟨oldest, kept, hentries⟩ :=
      List.exists_cons_of_length_pos (l := (ofRecords capacity pushed).entries) (by omega)
    refine ⟨oldest, kept, hentries, ?_⟩
    rw [push, if_pos hlength, hentries]
    rfl

/-- Let the memory for a log of the requested capacity, where zero counts as one, be small enough to
be reserved. Then the log is made, and after any pushes it holds the newest records. -/
theorem holds_newest (requested : Nat) (hfits : max requested 1 * recordBytes ≤ maxBytes) :
    ∃ log, new requested = .ok log ∧ ∀ pushed,
      Holds (max requested 1) pushed (pushed.foldl push log) := by
  have hcapacity : 0 < max requested 1 := Nat.lt_of_lt_of_le Nat.one_pos (Nat.le_max_right _ _)
  refine ⟨_, new_eq_ok_iff.2 ⟨hfits, rfl⟩, fun pushed ↦ ?_⟩
  rw [pushAll_ofRecords hcapacity]
  exact holds_ofRecords hcapacity pushed

theorem holds_newest_of_three :
    let record (path : String) : Record := ⟨"GET", path, 200, World.identifier 0, World.epoch⟩
    let pushed := [record "/a", record "/b", record "/c"]
    max 2 1 * recordBytes ≤ maxBytes ∧ ∃ log, new 2 = .ok log ∧
      Holds 2 pushed (pushed.foldl push log) ∧
      (pushed.foldl push log).recent 10 = [record "/c", record "/b"] ∧
      (pushed.foldl push log).size = 2 := by
  intro record pushed
  have hfits : max 2 1 * recordBytes ≤ maxBytes := by decide
  obtain ⟨log, hnew, hholds⟩ := holds_newest 2 hfits
  exact ⟨hfits, log, hnew, hholds pushed, (hholds pushed).recent 10, (hholds pushed).size⟩

end FrontDoor.Audit.Log
