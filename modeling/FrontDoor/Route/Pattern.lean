namespace FrontDoor.Route

inductive Piece where
  | literal (c : Char)
  | capture
  | rest
deriving DecidableEq, Repr

abbrev Pattern := List Piece

structure Glyph where
  char : Char
  doubled : Bool
deriving DecidableEq

def glyphs : List Char → List Glyph
  | '\x7b' :: '\x7b' :: cs => ⟨'\x7b', true⟩ :: glyphs cs
  | '\x7d' :: '\x7d' :: cs => ⟨'\x7d', true⟩ :: glyphs cs
  | c :: cs => ⟨c, false⟩ :: glyphs cs
  | [] => []

def Glyph.opens (g : Glyph) : Bool := g.char = '\x7b' && !g.doubled

def Glyph.closes (g : Glyph) : Bool := g.char = '\x7d' && !g.doubled

/-- What follows a capture's name behind its first character; the brace must end a segment. -/
def afterName? : List Glyph → Option (List Glyph)
  | [] => none
  | g :: gs =>
    if g.closes then
      match gs with
      | [] => some []
      | next :: _ => if next.char = '/' then some gs else none
    else if g.char = '*' ∨ g.char = '/' then none
    else afterName? gs

theorem length_afterName?_le {gs rest : List Glyph} (h : afterName? gs = some rest) :
    rest.length ≤ gs.length := by
  induction gs with
  | nil => simp [afterName?] at h
  | cons g gs ih =>
    unfold afterName? at h
    split at h
    · split at h
      · simp_all
      · split at h
        · simp only [Option.some.injEq] at h
          subst h
          simp
        · simp at h
    · split at h
      · simp at h
      · exact Nat.le_succ_of_le (ih h)

def capture? : List Glyph → Option (Piece × List Glyph)
  | [] => none
  | first :: gs =>
    if first.char = '\x7d' then none
    else if first.char = '*' then
      match gs with
      | [] => none
      | second :: _ =>
        if second.closes then none
        else (afterName? gs).bind fun rest ↦ if rest.isEmpty then some (.rest, rest) else none
    else (afterName? gs).map fun rest ↦ (.capture, rest)

theorem length_capture?_lt {gs rest : List Glyph} {p : Piece} (h : capture? gs = some (p, rest)) :
    rest.length < gs.length := by
  cases gs with
  | nil => simp [capture?] at h
  | cons first gs =>
    have hle (r : List Glyph) (hr : afterName? gs = some r) : r.length < (first :: gs).length :=
      Nat.lt_succ_of_le (length_afterName?_le hr)
    simp only [capture?] at h
    split at h
    · simp at h
    · split at h
      · split at h
        · simp at h
        · split at h
          · simp at h
          · obtain ⟨r, hr, hp⟩ := Option.bind_eq_some_iff.1 h
            split at hp <;> simp only [Option.some.injEq, Prod.mk.injEq, reduceCtorEq] at hp
            exact hp.2 ▸ hle r hr
      · obtain ⟨r, hr, hp⟩ := Option.map_eq_some_iff.1 h
        simp only [Prod.mk.injEq] at hp
        exact hp.2 ▸ hle r hr

def pieces? (gs : List Glyph) : Option Pattern :=
  match gs with
  | [] => some []
  | g :: gs =>
    if g.closes then none
    else if g.opens then
      match h : capture? gs with
      | none => none
      | some (p, rest) =>
        have := length_capture?_lt h
        (pieces? rest).map (p :: ·)
    else (pieces? gs).map (.literal g.char :: ·)
termination_by gs.length
decreasing_by all_goals simp only [List.length_cons]; omega

def maxCaptures : Nat := 25

namespace Pattern

def captureCount (p : Pattern) : Nat := p.count .capture

/-- Reads a pattern; a malformed one, or one with too many captures, is none. -/
def parse? (s : String) : Option Pattern := do
  let p ← pieces? (glyphs s.toList)
  if p.captureCount ≤ maxCaptures then return p else none

/-- Whether a pattern matches a path as it was sent. -/
def covers : Pattern → List Char → Bool
  | [], cs => cs.isEmpty
  | .literal c :: p, cs =>
    match cs with
    | [] => false
    | d :: ds => c = d && covers p ds
  | .capture :: p, cs => cs.head?.any (· ≠ '/') && covers p (cs.dropWhile (· ≠ '/'))
  | .rest :: _, cs => !cs.isEmpty

/-- Whether two patterns cannot be told apart where both may match: they are equal, or one takes the
rest of the path where the other one captures. -/
def conflicts : Pattern → Pattern → Bool
  | [], [] => true
  | .literal c :: p, .literal d :: q => c = d && conflicts p q
  | .capture :: p, .capture :: q => conflicts p q
  | .rest :: _, .rest :: _ => true
  | .rest :: _, .capture :: _ => true
  | .capture :: _, .rest :: _ => true
  | _, _ => false

theorem conflicts_self (p : Pattern) : p.conflicts p = true := by
  induction p with
  | nil => rfl
  | cons piece p ih => cases piece <;> simp [conflicts, ih]

/-- Whether a pattern goes before another one that matches the same path: at the first difference it
has a literal. -/
def precedes : Pattern → Pattern → Bool
  | .literal c :: p, .literal d :: q => c = d && precedes p q
  | .capture :: p, .capture :: q => precedes p q
  | .literal _ :: _, .capture :: _ => true
  | .literal _ :: _, .rest :: _ => true
  | _, _ => false

end Pattern

end FrontDoor.Route
