import FrontDoor.Proofs.Endpoints
import Mathlib.Data.List.Induction

namespace FrontDoor

variable {ε : Type}

structure Insertion (ε : Type) where
  pluginId : String
  path : String
  endpoint : ε

def firstAt (is : List (Insertion ε)) (path : String) : Option (Insertion ε) :=
  is.find? fun i ↦ i.path = path

theorem isSome_firstAt_iff {is : List (Insertion ε)} {path : String} :
    (firstAt is path).isSome = true ↔ ∃ i ∈ is, i.path = path := by
  rw [firstAt, List.find?_isSome]
  simp only [decide_eq_true_eq]

theorem firstAt_concat (is : List (Insertion ε)) (i : Insertion ε) (path : String) :
    firstAt (is ++ [i]) path = (firstAt is path).or (if i.path = path then some i else none) := by
  rw [firstAt, List.find?_append, ← firstAt, List.find?_singleton]
  simp only [decide_eq_true_eq]

namespace EndpointTable

variable {t : EndpointTable ε} {i : Insertion ε} {is : List (Insertion ε)} {path : String}

def attempt (t : EndpointTable ε) (i : Insertion ε) : EndpointTable ε × Except PluginError Unit :=
  addAll i.pluginId [(i.path, i.endpoint)] t

theorem attempt_of_free (h : t.get? i.path = none) :
    t.attempt i = (t.insert i.path ⟨i.pluginId, i.endpoint⟩, .ok ()) := by
  rw [attempt, addAll, add_of_free h]
  rfl

theorem attempt_of_taken {o : OwnedEndpoint ε} (h : t.get? i.path = some o) :
    t.attempt i = (t, .error (.endpointConflict i.path i.pluginId o.owner)) := by
  rw [attempt, addAll, add_of_taken h]

def ofInsertions (is : List (Insertion ε)) : EndpointTable ε := is.foldl (fun t i ↦ (t.attempt i).1) ∅

theorem ofInsertions_concat (is : List (Insertion ε)) (i : Insertion ε) :
    ofInsertions (is ++ [i]) = ((ofInsertions is).attempt i).1 := List.foldl_concat ..

/-- An insertion changes at most what is found at its path, and only if that was free. -/
theorem get?_attempt (t : EndpointTable ε) (i : Insertion ε) (path : String) :
    (t.attempt i).1.get? path =
      (t.get? path).or (if i.path = path then some ⟨i.pluginId, i.endpoint⟩ else none) := by
  cases h : t.get? i.path with
  | none =>
    rw [attempt_of_free h, Dict.get?_insert]
    by_cases hpath : i.path = path
    · rw [if_pos hpath, if_pos hpath, ← hpath, h]
      rfl
    · rw [if_neg hpath, if_neg hpath, Option.or_none]
  | some o =>
    rw [attempt_of_taken h]
    by_cases hpath : i.path = path
    · rw [← hpath, h]
      rfl
    · rw [if_neg hpath, Option.or_none]

theorem get?_ofInsertions (is : List (Insertion ε)) (path : String) :
    (ofInsertions is).get? path = (firstAt is path).map fun i ↦ ⟨i.pluginId, i.endpoint⟩ := by
  induction is using List.reverseRecOn with
  | nil => rfl
  | append_singleton is i ih =>
    rw [ofInsertions_concat, get?_attempt, ih, firstAt_concat, Option.map_or]
    congr 1
    split <;> rfl

structure Columns (ε : Type) where
  endpoints : Dict ε := ∅
  owners : Dict String := ∅

def columns (t : EndpointTable ε) : Columns ε := ⟨t.endpoints, t.mapValues fun _ o ↦ o.owner⟩

namespace Columns

/-- Only the owners tell whether a path is taken; each dictionary is changed by itself. -/
def attempt (c : Columns ε) (i : Insertion ε) : Columns ε × Except PluginError Unit :=
  match c.owners.get? i.path with
  | some existing => (c, .error (.endpointConflict i.path i.pluginId existing))
  | none => (⟨c.endpoints.insert i.path i.endpoint, c.owners.insert i.path i.pluginId⟩, .ok ())

def ofInsertions (is : List (Insertion ε)) : Columns ε := is.foldl (fun c i ↦ (c.attempt i).1) {}

theorem ofInsertions_concat (is : List (Insertion ε)) (i : Insertion ε) :
    ofInsertions (is ++ [i]) = ((ofInsertions is).attempt i).1 := List.foldl_concat ..

end Columns

theorem attempt_columns (t : EndpointTable ε) (i : Insertion ε) :
    t.columns.attempt i = ((t.attempt i).1.columns, (t.attempt i).2) := by
  -- The owners know of a path when the table does, so both ways of keeping it branch alike.
  have howner : t.columns.owners.get? i.path = (t.get? i.path).map (·.owner) :=
    Dict.get?_mapValues t _ i.path
  cases h : t.get? i.path with
  | none =>
    have hadded : columns (t.insert i.path ⟨i.pluginId, i.endpoint⟩) =
        ⟨t.endpoints.insert i.path i.endpoint, t.columns.owners.insert i.path i.pluginId⟩ := by
      rw [columns, endpoints, Dict.mapValues_insert, Dict.mapValues_insert]
      rfl
    rw [attempt_of_free h, hadded]
    simp only [Columns.attempt, howner, h, Option.map_none]
    rfl
  | some o =>
    rw [attempt_of_taken h]
    simp only [Columns.attempt, howner, h, Option.map_some]

theorem ofInsertions_columns (is : List (Insertion ε)) :
    Columns.ofInsertions is = (ofInsertions is).columns := by
  induction is using List.reverseRecOn with
  | nil => rfl
  | append_singleton is i ih =>
    rw [Columns.ofInsertions_concat, ih, attempt_columns, ofInsertions_concat]

theorem contains_ofInsertions_iff :
    (ofInsertions is).contains path = true ↔ ∃ i ∈ is, i.path = path := by
  rw [Dict.contains, get?_ofInsertions, Option.isSome_map, isSome_firstAt_iff]

theorem attempt_of_firstAt {first : Insertion ε} (h : firstAt is i.path = some first) :
    (ofInsertions is).attempt i =
      (ofInsertions is, .error (.endpointConflict i.path i.pluginId first.pluginId)) := by
  have htaken : (ofInsertions is).get? i.path = some ⟨first.pluginId, first.endpoint⟩ := by
    rw [get?_ofInsertions, h]
    rfl
  exact attempt_of_taken htaken

theorem attempt_eq_error_iff :
    (∃ e, ((ofInsertions is).attempt i).2 = .error e) ↔ ∃ j ∈ is, j.path = i.path := by
  rw [← isSome_firstAt_iff]
  cases hfirst : firstAt is i.path with
  | some first =>
    rw [attempt_of_firstAt hfirst]
    exact ⟨fun _ ↦ rfl, fun _ ↦ ⟨_, rfl⟩⟩
  | none =>
    have hfree : (ofInsertions is).get? i.path = none := by
      rw [get?_ofInsertions, hfirst]
      rfl
    rw [attempt_of_free hfree]
    simp

/-- After any insertions a further one is refused exactly when its path was inserted before; then it
is told who inserted it first, and changes nothing. What is found at a path is what its first
insertion brought, the paths are those that were inserted, each once and in ascending order, and
they are just the ones with an endpoint and an owner. All of this is the same if endpoints and
owners are kept in dictionaries of their own and only the owners are asked. -/
theorem first_writer_wins (earlier : List (Insertion ε)) (i : Insertion ε) :
    let t := ofInsertions earlier
    ((∃ e, (t.attempt i).2 = .error e) ↔ ∃ j ∈ earlier, j.path = i.path) ∧
    (∀ first, firstAt earlier i.path = some first →
      t.attempt i = (t, .error (.endpointConflict i.path i.pluginId first.pluginId))) ∧
    (∀ path, t.endpoint? path = (firstAt earlier path).map (·.endpoint) ∧
      t.owner? path = (firstAt earlier path).map (·.pluginId)) ∧
    (t.keys.Pairwise (· < ·) ∧ ∀ path, path ∈ t.keys ↔ ∃ j ∈ earlier, j.path = path) ∧
    (∀ path, (t.endpoint? path).isSome = t.contains path ∧ (t.owner? path).isSome = t.contains path ∧
      (t.contains path = true ↔ path ∈ t.keys)) ∧
    t.size = t.keys.length ∧
    Columns.ofInsertions earlier = t.columns ∧
    t.columns.attempt i = ((t.attempt i).1.columns, (t.attempt i).2) ∧
    t.columns.endpoints.keys = t.keys ∧ t.columns.owners.keys = t.keys := by
  intro t
  refine ⟨attempt_eq_error_iff, fun first ↦ attempt_of_firstAt, ?_, ⟨t.pairwise_keys, ?_⟩, ?_,
    t.length_keys.symm,
    ofInsertions_columns earlier, attempt_columns t i, t.keys_mapValues _, t.keys_mapValues _⟩
  · intro path
    rw [endpoint?, owner?, get?_ofInsertions, Option.map_map, Option.map_map]
    exact ⟨rfl, rfl⟩
  · intro path
    rw [Dict.mem_keys_iff, contains_ofInsertions_iff]
  · intro path
    rw [endpoint?, owner?, Option.isSome_map, Option.isSome_map]
    exact ⟨rfl, rfl, Dict.mem_keys_iff.symm⟩

theorem first_writer_wins_rivals :
    let earlier : List (Insertion Nat) :=
      [⟨"b", "/x", 1⟩, ⟨"a", "/é", 2⟩, ⟨"a", "/x", 3⟩, ⟨"a", "", 4⟩]
    let t := ofInsertions earlier
    firstAt earlier "/x" = some ⟨"b", "/x", 1⟩ ∧
      t.attempt ⟨"a", "/x", 5⟩ = (t, .error (.endpointConflict "/x" "a" "b")) ∧
      t.endpoint? "/x" = some 1 ∧ t.owner? "/x" = some "b" ∧ t.keys = ["", "/x", "/é"] := by
  intro earlier t
  have hfirst : firstAt earlier "/x" = some ⟨"b", "/x", 1⟩ := by rfl
  obtain ⟨-, hrefused, hfound, -⟩ := first_writer_wins earlier ⟨"a", "/x", 5⟩
  obtain ⟨hendpoint, howner⟩ := hfound "/x"
  rw [hfirst] at hendpoint howner
  exact ⟨hfirst, hrefused _ hfirst, hendpoint, howner, by decide⟩

end EndpointTable

end FrontDoor
