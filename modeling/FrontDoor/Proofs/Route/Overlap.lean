import FrontDoor.Proofs.Route.Prefix
import FrontDoor.Route.Shape

namespace FrontDoor.Route

/-- Two opening braces stand side by side, which a pattern takes for one literal brace. -/
def DoublesBrace (cs : List Char) : Prop := ['\x7b', '\x7b'] <:+: cs

instance (cs : List Char) : Decidable (DoublesBrace cs) := inferInstanceAs (Decidable (_ <:+: _))

variable {c : Char} {cs rest : List Char} {gs after : List Glyph} {π : Pattern}

theorem DoublesBrace.of_suffix (h : DoublesBrace rest) (hsuffix : rest <:+ cs) : DoublesBrace cs :=
  h.trans hsuffix.isInfix

theorem head?_ne_of_not_doublesBrace (h : ¬ DoublesBrace ('\x7b' :: cs)) : cs.head? ≠ some '\x7b' := by
  intro hhead
  obtain ⟨rest, rfl⟩ := List.head?_eq_some_iff.1 hhead
  exact h ⟨[], rest, rfl⟩

theorem glyphs_cons_of_ne (hopen : c = '\x7b' → cs.head? ≠ some '\x7b')
    (hclose : c = '\x7d' → cs.head? ≠ some '\x7d') :
    glyphs (c :: cs) = ⟨c, false⟩ :: glyphs cs := by
  rw [glyphs.eq_def]
  split <;> simp_all

theorem glyphs_cons_of_not_doublesBrace (h : ¬ DoublesBrace (c :: cs)) (hc : c ≠ '\x7d') :
    glyphs (c :: cs) = ⟨c, false⟩ :: glyphs cs := by
  refine glyphs_cons_of_ne ?_ (fun hclose ↦ absurd hclose hc)
  rintro rfl
  exact head?_ne_of_not_doublesBrace h

theorem char_head?_glyphs (cs : List Char) : (glyphs cs).head?.map (·.char) = cs.head? := by
  rw [glyphs.eq_def]
  split <;> rfl

theorem shapeChars_cons (h : c ≠ '\x7b') (cs : List Char) :
    shapeChars (c :: cs) = c :: shapeChars cs := by
  rw [shapeChars, if_neg h]

theorem shapeChars_open (h : cs.dropWhile (· ≠ '\x7d') = '\x7d' :: rest) :
    shapeChars ('\x7b' :: cs) =
      '\x7b' :: (if cs.head? = some '*' then ['*'] else []) ++ '\x7d' :: shapeChars rest := by
  rw [shapeChars, if_pos rfl, h]
  split <;> rfl

theorem head?_shapeChars_eq_close (cs : List Char) :
    (shapeChars cs).head? = some '\x7d' ↔ cs.head? = some '\x7d' := by
  cases cs with
  | nil => simp [shapeChars]
  | cons c cs =>
    by_cases hc : c = '\x7b'
    · subst hc
      by_cases hstar : cs.head? = some '*' <;> simp [shapeChars, hstar]
    · simp [shapeChars_cons hc]

def beyondName : List Char → List Char
  | '\x7d' :: '\x7d' :: cs => beyondName cs
  | '\x7d' :: cs => cs
  | _ :: cs => beyondName cs
  | [] => []

theorem beyondName_cons (h : c ≠ '\x7d') (cs : List Char) : beyondName (c :: cs) = beyondName cs := by
  rw [beyondName.eq_def]
  split <;> simp_all

theorem beyondName_close (h : cs.head? ≠ some '\x7d') : beyondName ('\x7d' :: cs) = cs := by
  rw [beyondName]
  rintro rest rfl
  exact h rfl

theorem length_beyondName_le (cs : List Char) : (beyondName cs).length ≤ cs.length := by
  fun_induction beyondName cs with
  | case1 cs ih => exact Nat.le_add_right_of_le (Nat.le_add_right_of_le ih)
  | case2 cs => exact Nat.le_succ _
  | case3 c cs _ _ ih => exact Nat.le_add_right_of_le ih
  | case4 => exact Nat.le_refl _

theorem closes_single (hc : c ≠ '\x7d') : Glyph.closes ⟨c, false⟩ = false := by
  simp [Glyph.closes, hc]

theorem afterName?_cons_eq_some {g : Glyph} (hg : g.closes = false)
    (h : afterName? (g :: gs) = some after) :
    afterName? gs = some after := by
  unfold afterName? at h
  rw [if_neg (by simp [hg])] at h
  split at h
  · cases h
  · exact h

theorem afterName?_close_eq_some (h : afterName? (⟨'\x7d', false⟩ :: gs) = some after) :
    after = gs := by
  unfold afterName? at h
  rw [if_pos (by simp [Glyph.closes])] at h
  split at h
  · exact (Option.some.inj h).symm
  · split at h
    · exact (Option.some.inj h).symm
    · cases h

theorem afterName?_dropWhile (hplain : ¬ DoublesBrace cs) (h : afterName? (glyphs cs) = some after) :
    afterName? (glyphs (cs.dropWhile (· ≠ '\x7d'))) = some after := by
  induction cs with
  | nil => exact h
  | cons c cs ih =>
    by_cases hc : c = '\x7d'
    · simpa [hc] using h
    · have hrest : ¬ DoublesBrace cs := fun hd ↦ hplain (hd.of_suffix (List.suffix_cons c cs))
      rw [glyphs_cons_of_not_doublesBrace hplain hc] at h
      rw [List.dropWhile_cons_of_pos (by simpa using hc)]
      exact ih hrest (afterName?_cons_eq_some (closes_single hc) h)

theorem exists_dropWhile_eq (hplain : ¬ DoublesBrace cs) (h : afterName? (glyphs cs) = some after) :
    ∃ rest, cs.dropWhile (· ≠ '\x7d') = '\x7d' :: rest := by
  have hdrop := afterName?_dropWhile hplain h
  cases hcs : cs.dropWhile (· ≠ '\x7d') with
  | nil =>
    rw [hcs] at hdrop
    cases hdrop
  | cons c rest =>
    have hc := List.head?_dropWhile_not (p := fun c : Char ↦ decide (c ≠ '\x7d')) (l := cs)
    rw [hcs] at hc
    simp at hc
    exact ⟨rest, by rw [hc]⟩

theorem exists_rest_of_afterName? (hplain : ¬ DoublesBrace cs)
    (h : afterName? (glyphs cs) = some after) :
    ∃ rest, rest <:+ cs ∧ after = glyphs rest ∧ beyondName (shapeChars cs) = shapeChars rest := by
  induction hn : cs.length using Nat.strongRecOn generalizing cs with
  | ind n ih =>
    subst hn
    cases cs with
    | nil => cases h
    | cons c cs =>
      have hrest : ¬ DoublesBrace cs := fun hd ↦ hplain (hd.of_suffix (List.suffix_cons c cs))
      by_cases hclose : c = '\x7d'
      · subst hclose
        by_cases hdouble : cs.head? = some '\x7d'
        · -- A doubled brace belongs to the name.
          obtain ⟨cs, rfl⟩ := List.head?_eq_some_iff.1 hdouble
          have hname : afterName? (glyphs cs) = some after := afterName?_cons_eq_some rfl h
          have hsuffix : cs <:+ '\x7d' :: '\x7d' :: cs := ⟨['\x7d', '\x7d'], rfl⟩
          obtain ⟨rest, hrest, hafter, hshape⟩ := ih cs.length (by simp only [List.length_cons]; omega)
              (fun hd ↦ hplain (hd.of_suffix hsuffix)) hname rfl
          refine ⟨rest, hrest.trans hsuffix, hafter, ?_⟩
          rw [shapeChars_cons (by decide), shapeChars_cons (by decide), beyondName, hshape]
        · rw [glyphs_cons_of_ne (fun heq ↦ absurd heq (by decide)) (fun _ ↦ hdouble)] at h
          refine ⟨cs, List.suffix_cons _ _, afterName?_close_eq_some h, ?_⟩
          rw [shapeChars_cons (by decide), beyondName_close]
          rwa [ne_eq, head?_shapeChars_eq_close]
      · rw [glyphs_cons_of_not_doublesBrace hplain hclose] at h
        have hname := afterName?_cons_eq_some (closes_single hclose) h
        by_cases hopen : c = '\x7b'
        · -- A brace inside a name is a character of it, but the shape takes it for another capture.
          subst hopen
          obtain ⟨tail, htail⟩ := exists_dropWhile_eq hrest hname
          have hsuffix : '\x7d' :: tail <:+ cs := htail ▸ List.dropWhile_suffix _
          have hname' := afterName?_dropWhile hrest hname
          rw [htail] at hname'
          have hlength := hsuffix.length_le
          obtain ⟨rest, hrest', hafter, hshape⟩ :=
            ih ('\x7d' :: tail).length (by simp at hlength ⊢; omega)
            (fun hd ↦ hrest (hd.of_suffix hsuffix)) hname' rfl
          refine ⟨rest, hrest'.trans (hsuffix.trans (List.suffix_cons _ cs)), hafter, ?_⟩
          rw [← hshape, shapeChars_open htail, List.cons_append, beyondName_cons hclose]
          rw [shapeChars_cons (by decide)]
          split
          · exact beyondName_cons (by decide) _
          · rfl
        · obtain ⟨rest, hsuffix, hafter, hshape⟩ := ih cs.length (by simp) hrest hname rfl
          refine ⟨rest, hsuffix.trans (List.suffix_cons c cs), hafter, ?_⟩
          rw [shapeChars_cons hopen, beyondName_cons hclose, hshape]

/-- The pattern of which a shape is the shape. -/
def patternOfShape : List Char → Pattern
  | '\x7b' :: '*' :: _ => [.rest]
  | '\x7b' :: '\x7d' :: cs => .capture :: patternOfShape (beyondName ('\x7d' :: cs))
  | '\x7d' :: '\x7d' :: cs => .literal '\x7d' :: patternOfShape cs
  | c :: cs => .literal c :: patternOfShape cs
  | [] => []
termination_by cs => cs.length
decreasing_by
  · have := length_beyondName_le ('\x7d' :: cs)
    simp only [List.length_cons] at this ⊢
    omega
  · simp only [List.length_cons]
    omega
  · simp

theorem patternOfShape_cons (hopen : c ≠ '\x7b') (hclose : c ≠ '\x7d') (cs : List Char) :
    patternOfShape (c :: cs) = .literal c :: patternOfShape cs := by
  rw [patternOfShape] <;> simp_all

theorem pieces?_literal_eq_some {g : Glyph} (hopen : g.opens = false) (hclose : g.closes = false)
    (h : pieces? (g :: gs) = some π) : ∃ π', pieces? gs = some π' ∧ π = .literal g.char :: π' := by
  rw [pieces?, if_neg (by simp [hclose]), if_neg (by simp [hopen])] at h
  obtain ⟨π', hπ', rfl⟩ := Option.map_eq_some_iff.1 h
  exact ⟨π', hπ', rfl⟩

theorem pieces?_open_eq_some (h : pieces? (⟨'\x7b', false⟩ :: gs) = some π) :
    ∃ p after π', capture? gs = some (p, after) ∧ pieces? after = some π' ∧ π = p :: π' := by
  rw [pieces?, if_neg (by simp [Glyph.closes]), if_pos (by simp [Glyph.opens])] at h
  split at h
  · cases h
  · rename_i p after hcapture
    obtain ⟨π', hπ', rfl⟩ := Option.map_eq_some_iff.1 h
    exact ⟨p, after, π', hcapture, hπ', rfl⟩

theorem capture?_eq_some {p : Piece} (hc : c ≠ '\x7d')
    (h : capture? (⟨c, false⟩ :: gs) = some (p, after)) :
    (c = '*' ∧ p = .rest ∧ after = [] ∨ c ≠ '*' ∧ p = .capture) ∧ afterName? gs = some after := by
  simp only [capture?, if_neg hc] at h
  split at h
  · rename_i hstar
    split at h
    · cases h
    · split at h
      · cases h
      · obtain ⟨rest, hrest, hp⟩ := Option.bind_eq_some_iff.1 h
        split at hp
        · rename_i hempty
          cases hp
          exact ⟨.inl ⟨hstar, rfl, List.isEmpty_iff.1 hempty⟩, hrest⟩
        · cases hp
  · rename_i hstar
    obtain ⟨rest, hrest, hp⟩ := Option.map_eq_some_iff.1 h
    cases hp
    exact ⟨.inr ⟨hstar, rfl⟩, hrest⟩

/-- A capture's text goes up to a closing brace at least, and a star in front says that it takes the
rest of the path. -/
theorem capture?_glyphs_eq_some {p : Piece} (hplain : ¬ DoublesBrace cs)
    (h : capture? (glyphs cs) = some (p, after)) :
    ∃ tail, cs.dropWhile (· ≠ '\x7d') = '\x7d' :: tail ∧
      afterName? (glyphs ('\x7d' :: tail)) = some after ∧
      (cs.head? = some '*' ∧ p = .rest ∧ after = [] ∨ cs.head? ≠ some '*' ∧ p = .capture) := by
  cases cs with
  | nil => cases h
  | cons c cs =>
    have hrest : ¬ DoublesBrace cs := fun hd ↦ hplain (hd.of_suffix (List.suffix_cons c cs))
    have hc : c ≠ '\x7d' := by
      rintro rfl
      have hhead := char_head?_glyphs ('\x7d' :: cs)
      cases hglyphs : glyphs ('\x7d' :: cs) with
      | nil => simp [hglyphs] at hhead
      | cons g gs =>
        rw [hglyphs] at h hhead
        simp [capture?, Option.some.inj hhead] at h
    rw [glyphs_cons_of_not_doublesBrace hplain hc] at h
    obtain ⟨hkind, hname⟩ := capture?_eq_some hc h
    obtain ⟨tail, htail⟩ := exists_dropWhile_eq hrest hname
    have hname' := afterName?_dropWhile hrest hname
    rw [htail] at hname'
    refine ⟨tail, ?_, hname', by simpa using hkind⟩
    rw [List.dropWhile_cons_of_pos (by simpa using hc), htail]

theorem patternOfShape_shapeChars (hplain : ¬ DoublesBrace cs) (h : pieces? (glyphs cs) = some π) :
    patternOfShape (shapeChars cs) = π := by
  induction hn : cs.length using Nat.strongRecOn generalizing cs π with
  | ind n ih =>
    subst hn
    cases cs with
    | nil =>
      rw [glyphs, pieces?] at h
      rw [shapeChars, patternOfShape]
      exact Option.some.inj h
    | cons c cs =>
      have hrest : ¬ DoublesBrace cs := fun hd ↦ hplain (hd.of_suffix (List.suffix_cons c cs))
      by_cases hclose : c = '\x7d'
      · subst hclose
        by_cases hdouble : cs.head? = some '\x7d'
        · obtain ⟨cs, rfl⟩ := List.head?_eq_some_iff.1 hdouble
          obtain ⟨π', hπ', rfl⟩ := pieces?_literal_eq_some (g := ⟨'\x7d', true⟩) rfl rfl h
          have hsuffix : cs <:+ '\x7d' :: '\x7d' :: cs := ⟨['\x7d', '\x7d'], rfl⟩
          have hshape := ih cs.length (by simp only [List.length_cons]; omega)
              (fun hd ↦ hplain (hd.of_suffix hsuffix)) hπ' rfl
          rw [shapeChars_cons (by decide), shapeChars_cons (by decide), patternOfShape, hshape]
        · rw [glyphs_cons_of_ne (fun heq ↦ absurd heq (by decide)) (fun _ ↦ hdouble), pieces?] at h
          cases h
      · rw [glyphs_cons_of_not_doublesBrace hplain hclose] at h
        by_cases hopen : c = '\x7b'
        · subst hopen
          obtain ⟨p, after, π', hcapture, hπ', rfl⟩ := pieces?_open_eq_some h
          obtain ⟨tail, htail, hname, ⟨hstar, rfl, rfl⟩ | ⟨hstar, rfl⟩⟩ :=
            capture?_glyphs_eq_some hrest hcapture
          · rw [pieces?] at hπ'
            cases hπ'
            rw [shapeChars_open htail, if_pos hstar]
            exact patternOfShape.eq_1 _
          · have hsuffix : '\x7d' :: tail <:+ cs := htail ▸ List.dropWhile_suffix _
            obtain ⟨rest, hsuffix', rfl, hshape⟩ :=
              exists_rest_of_afterName? (fun hd ↦ hrest (hd.of_suffix hsuffix)) hname
            have hlength := (hsuffix'.trans hsuffix).length_le
            rw [shapeChars_cons (by decide)] at hshape
            rw [shapeChars_open htail, if_neg hstar, List.singleton_append, patternOfShape, hshape,
              ih rest.length (by simp only [List.length_cons]; omega)
                (fun hd ↦ hrest (hd.of_suffix (hsuffix'.trans hsuffix))) hπ' rfl]
        · have hopens : Glyph.opens ⟨c, false⟩ = false := by simp [Glyph.opens, hopen]
          obtain ⟨π', hπ', rfl⟩ := pieces?_literal_eq_some hopens (closes_single hclose) h
          rw [shapeChars_cons hopen, patternOfShape_cons hopen hclose,
            ih cs.length (by simp) hrest hπ' rfl]

theorem parse?_eq_of_shape_eq {p q : String} {ρ : Pattern} (hp : ¬ DoublesBrace p.toList)
    (hq : ¬ DoublesBrace q.toList) (hπ : Pattern.parse? p = some π) (hρ : Pattern.parse? q = some ρ)
    (h : shape p = shape q) : π = ρ := by
  have hshape : shapeChars p.toList = shapeChars q.toList := String.ofList_injective h
  rw [← patternOfShape_shapeChars hp (Pattern.pieces?_of_parse? hπ),
    ← patternOfShape_shapeChars hq (Pattern.pieces?_of_parse? hρ), hshape]

end FrontDoor.Route
