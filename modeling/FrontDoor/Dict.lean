namespace FrontDoor

/-- A finite map from text, kept in strictly ascending order of its keys (order of code points). -/
structure Dict (α : Type) where
  entries : List (String × α)
  ascending : entries.Pairwise fun a b ↦ a.1 < b.1

namespace Dict

variable {α β : Type}

def put (key : String) (value : α) : List (String × α) → List (String × α)
  | [] => [(key, value)]
  | (k, v) :: rest =>
    if key < k then (key, value) :: (k, v) :: rest
    else if k < key then (k, v) :: put key value rest
    else (key, value) :: rest

def find (key : String) : List (String × α) → Option α
  | [] => none
  | (k, v) :: rest => if k = key then some v else find key rest

theorem eq_of_not_lt {a b : String} (h : ¬ a < b) (h' : ¬ b < a) : a = b :=
  String.le_antisymm (String.not_lt.1 h') (String.not_lt.1 h)

theorem key_mem_put {key : String} {value : α} {es : List (String × α)} {e : String × α}
    (h : e ∈ put key value es) : e.1 = key ∨ e ∈ es := by
  induction es with
  | nil => simp_all [put]
  | cons head rest ih =>
    unfold put at h
    split at h
    · rcases List.mem_cons.1 h with rfl | h
      · exact .inl rfl
      · exact .inr h
    · split at h
      · rcases List.mem_cons.1 h with rfl | h
        · simp
        · exact (ih h).imp_right (List.mem_cons_of_mem _)
      · rcases List.mem_cons.1 h with rfl | h
        · exact .inl rfl
        · exact .inr (List.mem_cons_of_mem _ h)

theorem pairwise_put (key : String) (value : α) {es : List (String × α)}
    (h : es.Pairwise fun a b ↦ a.1 < b.1) :
    (put key value es).Pairwise fun a b ↦ a.1 < b.1 := by
  induction es with
  | nil => simp [put]
  | cons head rest ih =>
    obtain ⟨hhead, hrest⟩ := List.pairwise_cons.1 h
    unfold put
    split
    · rename_i hlt
      refine List.pairwise_cons.2 ⟨fun e he ↦ ?_, h⟩
      rcases List.mem_cons.1 he with rfl | he
      · exact hlt
      · exact String.lt_trans hlt (hhead e he)
    · split
      · rename_i hlt
        refine List.pairwise_cons.2 ⟨fun e he ↦ ?_, ih hrest⟩
        rcases key_mem_put he with heq | he
        · simpa [heq] using hlt
        · exact hhead e he
      · rename_i h₁ h₂
        have heq : head.1 = key := eq_of_not_lt h₂ h₁
        exact List.pairwise_cons.2 ⟨fun e he ↦ by simpa [← heq] using hhead e he, hrest⟩

theorem find_eq_none_of_lt {key : String} {es : List (String × α)}
    (h : ∀ e ∈ es, key < e.1) : find key es = none := by
  induction es with
  | nil => rfl
  | cons head rest ih =>
    have hne : head.1 ≠ key := fun heq ↦ String.lt_irrefl key (by simpa [heq] using h head (by simp))
    simp only [find, if_neg hne]
    exact ih fun e he ↦ h e (List.mem_cons_of_mem _ he)

theorem find_put (key : String) (value : α) (k : String) {es : List (String × α)}
    (h : es.Pairwise fun a b ↦ a.1 < b.1) :
    find k (put key value es) = if key = k then some value else find k es := by
  induction es with
  | nil => simp [put, find]
  | cons head rest ih =>
    obtain ⟨hhead, hrest⟩ := List.pairwise_cons.1 h
    unfold put
    split
    · simp only [find]
    · split
      · rename_i hlt
        simp only [find, ih hrest]
        by_cases hk : head.1 = k
        · have : key ≠ k := fun heq ↦ String.lt_irrefl k (by rw [hk, heq] at hlt; exact hlt)
          simp [hk, this]
        · simp [hk]
      · rename_i h₁ h₂
        have heq : head.1 = key := eq_of_not_lt h₂ h₁
        simp only [find]
        by_cases hk : key = k
        · simp [hk]
        · simp [hk, heq]

theorem keys_put_of_find {key : String} {old : α} (value : α) {es : List (String × α)}
    (h : es.Pairwise fun a b ↦ a.1 < b.1) (hfind : find key es = some old) :
    (put key value es).map (·.1) = es.map (·.1) := by
  induction es with
  | nil => cases hfind
  | cons head rest ih =>
    obtain ⟨hhead, hrest⟩ := List.pairwise_cons.1 h
    unfold put
    split
    · rename_i hlt
      have hnone : find key (head :: rest) = none := find_eq_none_of_lt fun e he ↦ by
        rcases List.mem_cons.1 he with rfl | he
        · exact hlt
        · exact String.lt_trans hlt (hhead e he)
      rw [hnone] at hfind
      cases hfind
    · split
      · rename_i hlt
        have hne : head.1 ≠ key := by
          intro heq
          rw [heq] at hlt
          exact String.lt_irrefl key hlt
        have hlater : find key rest = some old := by simpa [find, hne] using hfind
        rw [List.map_cons, List.map_cons, ih hrest hlater]
      · rename_i h₁ h₂
        rw [List.map_cons, List.map_cons, eq_of_not_lt h₁ h₂]

theorem length_put_of_find {key : String} (value : α) {es : List (String × α)}
    (hfind : find key es = none) :
    (put key value es).length = es.length + 1 := by
  induction es with
  | nil => rfl
  | cons head rest ih =>
    have hne : head.1 ≠ key := by
      intro heq
      simp [find, heq] at hfind
    have hlater : find key rest = none := by simpa [find, hne] using hfind
    unfold put
    split
    · rfl
    · split
      · rw [List.length_cons, List.length_cons, ih hlater]
      · rename_i h₁ h₂
        exact absurd (eq_of_not_lt h₂ h₁) hne

theorem mem_iff_find {es : List (String × α)} (h : es.Pairwise fun a b ↦ a.1 < b.1)
    (k : String) (v : α) : (k, v) ∈ es ↔ find k es = some v := by
  induction es with
  | nil => simp [find]
  | cons head rest ih =>
    obtain ⟨hhead, hrest⟩ := List.pairwise_cons.1 h
    simp only [List.mem_cons, find, ih hrest]
    by_cases hk : head.1 = k
    · have hnone : find k rest = none := find_eq_none_of_lt fun e he ↦ hk ▸ hhead e he
      simp only [hk, hnone, if_true, reduceCtorEq, or_false, Option.some.injEq]
      constructor
      · intro h; rw [← h]
      · intro h; rw [← h, ← hk]
    · have : (k, v) ≠ head := fun heq ↦ hk (by rw [← heq])
      simp [hk, this]

theorem find_filter {es : List (String × α)} (h : es.Pairwise fun a b ↦ a.1 < b.1) (p : α → Bool)
    (key : String) :
    find key (es.filter fun e ↦ p e.2) = (find key es).filter p := by
  induction es with
  | nil => rfl
  | cons head rest ih =>
    obtain ⟨hhead, hrest⟩ := List.pairwise_cons.1 h
    rw [List.filter_cons]
    by_cases hk : head.1 = key
    · have hnone : find key rest = none := find_eq_none_of_lt fun e he ↦ hk ▸ hhead e he
      cases hp : p head.2
      · simpa [find, hk, hp, hnone, Option.filter] using ih hrest
      · simp [find, hk, hp, Option.filter]
    · cases hp : p head.2 <;> simp [find, hk, ih hrest]

def empty : Dict α := ⟨[], .nil⟩

instance : EmptyCollection (Dict α) := ⟨empty⟩
instance : Inhabited (Dict α) := ⟨empty⟩

def get? (d : Dict α) (key : String) : Option α := find key d.entries

def contains (d : Dict α) (key : String) : Bool := (d.get? key).isSome

def insert (d : Dict α) (key : String) (value : α) : Dict α :=
  ⟨put key value d.entries, pairwise_put key value d.ascending⟩

/-- Inserts from left to right, so that of two values for a key the later one stays. -/
def ofList (es : List (String × α)) : Dict α := es.foldl (fun d e ↦ d.insert e.1 e.2) empty

def keys (d : Dict α) : List String := d.entries.map (·.1)

def values (d : Dict α) : List α := d.entries.map (·.2)

def size (d : Dict α) : Nat := d.entries.length

def isEmpty (d : Dict α) : Bool := d.entries.isEmpty

theorem pairwise_map {es : List (String × α)} (f : String → α → β)
    (h : es.Pairwise fun a b ↦ a.1 < b.1) :
    (es.map fun e ↦ (e.1, f e.1 e.2)).Pairwise fun a b ↦ a.1 < b.1 :=
  List.pairwise_map.2 h

def mapValues (d : Dict α) (f : String → α → β) : Dict β :=
  ⟨d.entries.map fun e ↦ (e.1, f e.1 e.2), pairwise_map f d.ascending⟩

@[simp] theorem get?_empty (key : String) : (empty : Dict α).get? key = none := rfl

theorem get?_insert (d : Dict α) (key : String) (value : α) (k : String) :
    (d.insert key value).get? k = if key = k then some value else d.get? k :=
  find_put key value k d.ascending

theorem keys_insert_of_contains {d : Dict α} {key : String} (h : d.contains key) (value : α) :
    (d.insert key value).keys = d.keys := by
  obtain ⟨old, hold⟩ := Option.isSome_iff_exists.1 h
  exact keys_put_of_find value d.ascending hold

theorem size_insert_of_not_contains {d : Dict α} {key : String} (h : d.contains key = false)
    (value : α) :
    (d.insert key value).size = d.size + 1 := by
  have hnone : d.get? key = none := by simpa [contains] using h
  exact length_put_of_find value hnone

theorem length_keys (d : Dict α) : d.keys.length = d.size := List.length_map _

theorem size_eq_of_keys_eq {d : Dict α} {d' : Dict β} (h : d.keys = d'.keys) : d.size = d'.size := by
  rw [← length_keys, ← length_keys, h]

theorem pairwise_keys (d : Dict α) : d.keys.Pairwise (· < ·) := List.pairwise_map.2 d.ascending

theorem keys_mapValues (d : Dict α) (f : String → α → β) :
    (d.mapValues f).keys = d.keys := List.map_map

theorem get?_mapValues (d : Dict α) (f : String → α → β) (key : String) :
    (d.mapValues f).get? key = (d.get? key).map (f key) := by
  have hfind (es : List (String × α)) :
      find key (es.map fun e ↦ (e.1, f e.1 e.2)) = (find key es).map (f key) := by
    induction es with
    | nil => rfl
    | cons e es ih =>
      by_cases hk : e.1 = key
      · simp [find, hk]
      · simp [find, hk, ih]
  exact hfind d.entries

theorem mem_entries_iff (d : Dict α) (k : String) (v : α) :
    (k, v) ∈ d.entries ↔ d.get? k = some v :=
  mem_iff_find d.ascending k v

theorem mem_keys_iff {d : Dict α} {key : String} : key ∈ d.keys ↔ d.contains key = true := by
  rw [contains, Option.isSome_iff_exists, keys, List.mem_map]
  simp only [← mem_entries_iff]
  constructor
  · rintro ⟨⟨k, v⟩, he, rfl⟩
    exact ⟨v, he⟩
  · rintro ⟨v, he⟩
    exact ⟨(key, v), he, rfl⟩

end Dict

end FrontDoor
