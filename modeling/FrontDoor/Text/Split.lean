namespace FrontDoor.Text

/-- The pieces between separators; there is always one more piece than separators. -/
def split (sep : Char) : List Char → List (List Char)
  | [] => [[]]
  | c :: rest =>
    if c = sep then [] :: split sep rest
    else
      match split sep rest with
      | [] => [[c]]
      | piece :: pieces => (c :: piece) :: pieces

def join (sep : Char) : List (List Char) → List Char
  | [] => []
  | [piece] => piece
  | piece :: pieces => piece ++ sep :: join sep pieces

theorem split_ne_nil (sep : Char) (cs : List Char) : split sep cs ≠ [] := by
  cases cs with
  | nil => simp [split]
  | cons c rest =>
    unfold split
    split
    · simp
    · split <;> simp

theorem join_split (sep : Char) (cs : List Char) : join sep (split sep cs) = cs := by
  induction cs with
  | nil => rfl
  | cons c rest ih =>
    unfold split
    cases h : split sep rest with
    | nil => exact absurd h (split_ne_nil sep rest)
    | cons piece pieces =>
      rw [h] at ih
      by_cases hc : c = sep
      · simp [hc, join, ih]
      · cases pieces <;> simp_all [join]

theorem not_mem_of_mem_split {sep : Char} {cs piece : List Char} (h : piece ∈ split sep cs) :
    sep ∉ piece := by
  induction cs generalizing piece with
  | nil => simp_all [split]
  | cons c rest ih =>
    unfold split at h
    split at h
    · rcases List.mem_cons.1 h with rfl | h
      · simp
      · exact ih h
    · rename_i hc
      cases hs : split sep rest with
      | nil => exact absurd hs (split_ne_nil sep rest)
      | cons p ps =>
        rw [hs] at h ih
        rcases List.mem_cons.1 h with rfl | h
        · simpa [Ne.symm hc] using ih List.mem_cons_self
        · exact ih (List.mem_cons_of_mem _ h)

theorem split_eq_splitOn (sep : Char) (cs : List Char) : split sep cs = cs.splitOn sep := by
  induction cs with
  | nil => rw [split, List.splitOn_nil]
  | cons c rest ih =>
    rw [split, List.splitOn_cons_eq_if_modifyHead, ← ih]
    by_cases hc : c = sep
    · rw [if_pos hc, if_pos (beq_iff_eq.2 hc)]
    · rw [if_neg hc, if_neg (mt beq_iff_eq.1 hc)]
      cases hpieces : split sep rest with
      | nil => exact absurd hpieces (split_ne_nil sep rest)
      | cons piece pieces => rfl

theorem split_injective (sep : Char) : Function.Injective (split sep) :=
  Function.LeftInverse.injective (join_split sep)

theorem split_append_cons (sep : Char) (start rest : List Char) :
    split sep (start ++ sep :: rest) = split sep start ++ split sep rest := by
  simp only [split_eq_splitOn, List.splitOn_append_cons_self]

end FrontDoor.Text
