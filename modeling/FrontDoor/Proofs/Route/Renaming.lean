import FrontDoor.Proofs.Route.Overlap
import Mathlib.Data.List.Forall2

namespace FrontDoor.Route

/-- What stands between the braces of a capture: a name, or a star and a name. -/
structure Label where
  chars : List Char
  plain : Plain chars
  nonempty : chars ≠ []

/-- A star in front makes a capture take the rest of the path, whatever stands behind it. -/
def Label.piece (l : Label) : Piece :=
  match l.chars with
  | '*' :: _ => .rest
  | _ => .capture

/-- A part of a path as it is written: text without braces, or a capture. -/
inductive Part where
  | text (cs : List Char) (plain : Plain cs)
  | capture (l : Label)

namespace Part

def written : Part → List Char
  | text cs _ => cs
  | capture l => '\x7b' :: l.chars ++ ['\x7d']

def pieces : Part → Pattern
  | text cs _ => cs.map .literal
  | capture l => [l.piece]

/-- A capture may get another name, but stays of its kind; nothing else changes. -/
inductive Renamed : Part → Part → Prop
  | text (cs : List Char) (plain : Plain cs) : Renamed (text cs plain) (text cs plain)
  | capture {l l' : Label} : l.piece = l'.piece → Renamed (capture l) (capture l')

end Part

def pathOf (parts : List Part) : String := String.ofList (parts.flatMap Part.written)

/-- The literal characters of a path and the kinds of its captures, each in its place. -/
def piecesOf (parts : List Part) : Pattern := parts.flatMap Part.pieces

def SameUpToNames (ps qs : List Part) : Prop :=
  ∃ ps' qs', List.Forall₂ Part.Renamed ps ps' ∧ List.Forall₂ Part.Renamed qs qs' ∧
    pathOf ps' = pathOf qs'

def Piece.inShape : Piece → List Char
  | literal c => [c]
  | capture => ['\x7b', '\x7d']
  | rest => ['\x7b', '*', '\x7d']

variable {cs : List Char} {ps qs : List Part} {π ρ : Pattern}

theorem Label.piece_eq (l : Label) :
    l.piece = if l.chars.head? = some '*' then .rest else .capture := by
  rw [piece]
  split
  · rename_i hchars
    rw [hchars]
    rfl
  · rename_i hplain
    rw [if_neg]
    intro hstar
    obtain ⟨name, hchars⟩ := List.head?_eq_some_iff.1 hstar
    exact hplain name hchars

theorem Label.head?_append (l : Label) (rest : List Char) :
    (l.chars ++ rest).head? = l.chars.head? := by
  obtain ⟨c, cs, hchars⟩ := List.exists_cons_of_ne_nil l.nonempty
  rw [hchars]
  rfl

theorem shapeChars_text (h : Plain cs) (rest : List Char) :
    shapeChars (cs ++ rest) = cs ++ shapeChars rest := by
  induction cs with
  | nil => rfl
  | cons c cs ih =>
    obtain ⟨hc, hcs⟩ := List.forall_mem_cons.1 h
    rw [List.cons_append, shapeChars_cons hc.1, ih hcs, List.cons_append]

theorem shapeChars_capture (l : Label) (rest : List Char) :
    shapeChars ('\x7b' :: (l.chars ++ '\x7d' :: rest)) = l.piece.inShape ++ shapeChars rest := by
  -- A label holds no closing brace, so the first one ends the capture.
  have hlabel : (l.chars ++ '\x7d' :: rest).dropWhile (· ≠ '\x7d') = '\x7d' :: rest := by
    rw [List.dropWhile_append_of_pos fun c hc ↦ decide_eq_true (l.plain c hc).2]
    exact List.dropWhile_cons_of_neg (by simp)
  rw [shapeChars_open hlabel, l.head?_append, l.piece_eq]
  split <;> rfl

theorem flatMap_literal {f : Piece → List Char} (hf : ∀ c, f (.literal c) = [c]) (cs : List Char) :
    (cs.map Piece.literal).flatMap f = cs := by
  rw [List.flatMap_map]
  simp only [hf]
  exact List.flatMap_singleton' cs

theorem shapeChars_written (parts : List Part) :
    shapeChars (parts.flatMap Part.written) = (piecesOf parts).flatMap Piece.inShape := by
  induction parts with
  | nil => exact shapeChars.eq_1
  | cons part parts ih =>
    rw [List.flatMap_cons, piecesOf, List.flatMap_cons, List.flatMap_append, ← piecesOf, ← ih]
    cases part with
    | text cs plain =>
      rw [Part.written, shapeChars_text plain, Part.pieces, flatMap_literal fun _ ↦ rfl]
    | capture l =>
      rw [Part.written, List.append_assoc, List.singleton_append, List.cons_append, shapeChars_capture,
        Part.pieces, List.flatMap_singleton]

/-- If no literal is an opening brace, a shape tells which piece comes first and where the next one
starts. -/
theorem inShape_append_inj {a b : Piece} {xs ys : List Char} (ha : a ≠ .literal '\x7b')
    (hb : b ≠ .literal '\x7b') (h : a.inShape ++ xs = b.inShape ++ ys) : a = b ∧ xs = ys := by
  cases a <;> cases b <;> grind [Piece.inShape]

theorem eq_of_flatMap_inShape_eq (hπ : .literal '\x7b' ∉ π) (hρ : .literal '\x7b' ∉ ρ)
    (h : π.flatMap Piece.inShape = ρ.flatMap Piece.inShape) : π = ρ := by
  induction π generalizing ρ with
  | nil =>
    cases ρ with
    | nil => rfl
    | cons b ρ => cases b <;> cases h
  | cons a π ih =>
    cases ρ with
    | nil => cases a <;> cases h
    | cons b ρ =>
      rw [List.mem_cons, not_or] at hπ hρ
      rw [List.flatMap_cons, List.flatMap_cons] at h
      obtain ⟨rfl, hrest⟩ := inShape_append_inj (Ne.symm hπ.1) (Ne.symm hρ.1) h
      rw [ih hπ.2 hρ.2 hrest]

theorem open_notMem_piecesOf (parts : List Part) : .literal '\x7b' ∉ piecesOf parts := by
  intro hmem
  obtain ⟨part, -, hmem⟩ := List.mem_flatMap.1 hmem
  cases part with
  | text cs plain =>
    obtain ⟨c, hc, hopen⟩ := List.mem_map.1 hmem
    exact (plain c hc).1 (Piece.literal.inj hopen)
  | capture l =>
    rw [Part.pieces, List.mem_singleton, l.piece_eq] at hmem
    split at hmem <;> cases hmem

theorem shape_eq_iff_pieces : shape (pathOf ps) = shape (pathOf qs) ↔ piecesOf ps = piecesOf qs := by
  rw [shape, shape, String.ofList_inj, pathOf, pathOf, String.toList_ofList, String.toList_ofList,
    shapeChars_written, shapeChars_written]
  exact ⟨eq_of_flatMap_inShape_eq (open_notMem_piecesOf ps) (open_notMem_piecesOf qs), congrArg _⟩

theorem Part.Renamed.pieces_eq {part part' : Part} (h : Part.Renamed part part') :
    part.pieces = part'.pieces := by
  cases h with
  | text cs plain => rfl
  | capture hkind => rw [Part.pieces, hkind, Part.pieces]

theorem piecesOf_eq_of_renamed {ps ps' : List Part} (h : List.Forall₂ Part.Renamed ps ps') :
    piecesOf ps = piecesOf ps' := by
  induction h with
  | nil => rfl
  | cons hpart _ ih =>
    rw [piecesOf] at ih ⊢
    rw [List.flatMap_cons, hpart.pieces_eq, ih]
    rfl

def Piece.label : Piece → Label
  | rest => ⟨['*', '_'], by decide, by decide⟩
  | _ => ⟨['_'], by decide, by decide⟩

def Part.anonymous : Part → Part
  | text cs plain => text cs plain
  | capture l => capture l.piece.label

def Piece.written : Piece → List Char
  | literal c => [c]
  | p => (Part.capture p.label).written

theorem Label.piece_label (l : Label) : l.piece.label.piece = l.piece := by
  rw [l.piece_eq]
  split <;> rfl

theorem renamed_anonymous (parts : List Part) :
    List.Forall₂ Part.Renamed parts (parts.map Part.anonymous) := by
  refine List.forall₂_map_right_iff.2 (List.forall₂_same.2 fun part _ ↦ ?_)
  cases part with
  | text cs plain => exact .text cs plain
  | capture l => exact .capture l.piece_label.symm

theorem written_anonymous (parts : List Part) :
    (parts.map Part.anonymous).flatMap Part.written = (piecesOf parts).flatMap Piece.written := by
  rw [List.flatMap_map, piecesOf, List.flatMap_assoc]
  refine congrArg List.flatten (List.map_congr_left fun part _ ↦ ?_)
  cases part with
  | text cs plain =>
    rw [Part.pieces, flatMap_literal fun _ ↦ rfl]
    rfl
  | capture l =>
    rw [Part.pieces, List.flatMap_singleton, Part.anonymous, l.piece_eq]
    split <;> rfl

theorem sameUpToNames_iff_pieces : SameUpToNames ps qs ↔ piecesOf ps = piecesOf qs := by
  constructor
  · rintro ⟨ps', qs', hps, hqs, hpath⟩
    rw [piecesOf_eq_of_renamed hps, piecesOf_eq_of_renamed hqs]
    exact shape_eq_iff_pieces.1 (congrArg shape hpath)
  · intro hpieces
    -- One name for all captures of a kind leaves nothing but the pieces to tell the paths apart.
    refine ⟨_, _, renamed_anonymous ps, renamed_anonymous qs, ?_⟩
    rw [pathOf, pathOf, written_anonymous, written_anonymous, hpieces]

/-- Paths have one shape exactly when renaming their captures makes them equal, and this is so
exactly when they have the same literal characters and captures of the same kinds, each in the same
place. -/
theorem shape_eq_iff_sameUpToNames (ps qs : List Part) :
    (shape (pathOf ps) = shape (pathOf qs) ↔ SameUpToNames ps qs) ∧
    (SameUpToNames ps qs ↔ piecesOf ps = piecesOf qs) :=
  ⟨shape_eq_iff_pieces.trans sameUpToNames_iff_pieces.symm, sameUpToNames_iff_pieces⟩

example : shape "/{a}{*b}.{c}" = "/{}{*}.{}" := by cbv

end FrontDoor.Route
