import FrontDoor.Matcher
import FrontDoor.Route.Pattern
import Mathlib.Data.List.Basic

namespace FrontDoor.Route

def Under (start cs : List Char) : Prop :=
  ∃ rest, cs = start ++ rest ∧ (rest = [] ∨ rest.head? = some '/')

theorem under_iff_without? {start cs : List Char} :
    Under start cs ↔ ∃ rest, without? start cs = some rest ∧ (rest = [] ∨ rest.head? = some '/') := by
  simp only [Under, without?_eq_some_iff]

theorem scopeCovers_iff (scope path : String) :
    scopeCovers scope path = true ↔
      trimSlashes scope = "" ∨ trimSlashes scope = "*" ∨
      Under (trimSlashes scope).toList path.toList := by
  rw [under_iff_without?, scopeCovers]
  by_cases hempty : trimSlashes scope = ""
  · simp [hempty]
  by_cases hstar : trimSlashes scope = "*"
  · simp [hstar]
  cases without? (trimSlashes scope).toList path.toList <;> simp [hempty, hstar]

theorem accepts_pathPrefix_iff (start path method : String) :
    (Matcher.pathPrefix start).accepts path method = true ↔
      trimSlashes start = "" ∨ Under (trimSlashes start).toList path.toList := by
  rw [under_iff_without?, Matcher.pathPrefix, Matcher.accepts]
  cases without? (trimSlashes start).toList path.toList <;> simp

def Plain (cs : List Char) : Prop := ∀ c ∈ cs, c ≠ '\x7b' ∧ c ≠ '\x7d'

instance (cs : List Char) : Decidable (Plain cs) := List.decidableBAll _ cs

theorem plain_trimSlashes {s : String} (h : Plain s.toList) : Plain (trimSlashes s).toList := by
  intro c hc
  rw [trimSlashes, String.toList_ofList, List.mem_reverse] at hc
  exact h c (List.mem_reverse.1 ((List.dropWhile_sublist _).mem hc))

theorem glyphs_cons {c : Char} (h : c ≠ '\x7b' ∧ c ≠ '\x7d') (cs : List Char) :
    glyphs (c :: cs) = ⟨c, false⟩ :: glyphs cs := by
  rw [glyphs.eq_def]
  split <;> simp_all

theorem pieces?_cons {c : Char} (h : c ≠ '\x7b' ∧ c ≠ '\x7d') (gs : List Glyph) :
    pieces? (⟨c, false⟩ :: gs) = (pieces? gs).map (.literal c :: ·) := by
  rw [pieces?]
  simp [Glyph.closes, Glyph.opens, h.1, h.2]

theorem pieces?_glyphs_append {start : List Char} (h : Plain start) (cs : List Char) :
    pieces? (glyphs (start ++ cs)) = (pieces? (glyphs cs)).map (start.map .literal ++ ·) := by
  induction start with
  | nil => simp
  | cons c start ih =>
    have hc := h c List.mem_cons_self
    rw [List.cons_append, glyphs_cons hc, pieces?_cons hc,
      ih fun d hd ↦ h d (List.mem_cons_of_mem _ hd), Option.map_map]
    rfl

namespace Pattern

theorem covers_append {start : List Char} {π : Pattern} {cs : List Char} :
    covers (start.map .literal ++ π) cs = true ↔
    ∃ rest, cs = start ++ rest ∧ π.covers rest = true := by
  induction start generalizing cs with
  | nil => simp
  | cons c start ih =>
    cases cs with
    | nil => simp [covers]
    | cons d ds =>
      simp only [List.map_cons, List.cons_append, covers, Bool.and_eq_true, decide_eq_true_eq, ih,
        List.cons.injEq]
      constructor
      · rintro ⟨rfl, rest, rfl, h⟩
        exact ⟨rest, ⟨rfl, rfl⟩, h⟩
      · rintro ⟨rest, ⟨rfl, rfl⟩, h⟩
        exact ⟨rfl, rest, rfl, h⟩

end Pattern

theorem Pattern.exists_append_of_covers {start cs path : List Char} {π : Pattern}
    (hplain : Plain start) (hπ : pieces? (glyphs (start ++ cs)) = some π)
    (hpath : π.covers path = true) :
    ∃ π' rest, pieces? (glyphs cs) = some π' ∧ path = start ++ rest ∧ π'.covers rest = true := by
  rw [pieces?_glyphs_append hplain] at hπ
  obtain ⟨π', hπ', rfl⟩ := Option.map_eq_some_iff.1 hπ
  obtain ⟨rest, hrest, hcovers⟩ := covers_append.1 hpath
  exact ⟨π', rest, hπ', hrest, hcovers⟩

theorem Pattern.under_of_covers {start cs path : List Char} {π : Pattern} (hplain : Plain start)
    (hunder : Under start cs) (hπ : pieces? (glyphs cs) = some π) (hpath : π.covers path = true) :
    Under start path := by
  obtain ⟨text, rfl, hend⟩ := hunder
  rcases hend with rfl | hslash
  · obtain ⟨π', rest, hπ', rfl, hrest⟩ := exists_append_of_covers hplain hπ hpath
    rw [glyphs, pieces?] at hπ'
    cases hπ'
    exact ⟨rest, rfl, .inl (List.isEmpty_iff.1 hrest)⟩
  · obtain ⟨text, rfl⟩ := List.head?_eq_some_iff.1 hslash
    have hplain' : Plain (start ++ ['/']) := by
      intro c hc
      rcases List.mem_append.1 hc with hc | hc
      · exact hplain c hc
      · rw [List.mem_singleton.1 hc]
        decide
    rw [← List.singleton_append, ← List.append_assoc] at hπ
    obtain ⟨_, rest, -, rfl, -⟩ := exists_append_of_covers hplain' hπ hpath
    exact ⟨'/' :: rest, by simp, .inr rfl⟩

theorem Pattern.pieces?_of_parse? {path : String} {π : Pattern} (h : Pattern.parse? path = some π) :
    pieces? (glyphs path.toList) = some π := by
  obtain ⟨π', hπ', h⟩ := Option.bind_eq_some_iff.1 h
  split at h
  · cases h
    exact hπ'
  · cases h

/-- A brace-free scope other than `*` covers the path of a route only if the prefix matcher of the
same text accepts every request path that the route matches, whatever it captures. -/
theorem accepts_of_covers {scope path request : String} {π : Pattern} (hplain : Plain scope.toList)
    (hstar : trimSlashes scope ≠ "*") (hscope : scopeCovers scope path = true)
    (hπ : Pattern.parse? path = some π)
    (hrequest : π.covers request.toList = true) (method : String) :
    (Matcher.pathPrefix scope).accepts request method = true := by
  rw [accepts_pathPrefix_iff]
  rcases (scopeCovers_iff scope path).1 hscope with hempty | hstar' | hunder
  · exact .inl hempty
  · exact absurd hstar' hstar
  · exact .inr (π.under_of_covers (plain_trimSlashes hplain) hunder
      (Pattern.pieces?_of_parse? hπ) hrequest)

end FrontDoor.Route
