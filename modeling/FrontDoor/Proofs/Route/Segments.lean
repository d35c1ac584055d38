import FrontDoor.Proofs.Route.Prefix
import FrontDoor.Route.Shape
import Mathlib.Data.List.DropRight

namespace FrontDoor

namespace Text

variable {sep : Char} {start cs : List Char}

theorem split_isPrefix_iff :
    split sep start <+: split sep cs ↔ cs = start ∨ ∃ rest, cs = start ++ sep :: rest := by
  constructor
  · rintro ⟨pieces, hpieces⟩
    cases pieces with
    | nil => exact .inl (split_injective sep (hpieces.symm.trans (List.append_nil _)))
    | cons piece pieces =>
      -- What is left over holds no separator in any piece, so it is what some text splits into.
      have hfree : ∀ p ∈ piece :: pieces, sep ∉ p := by
        intro p hp
        have hmem : p ∈ split sep cs := by
          rw [← hpieces]
          exact List.mem_append_right _ hp
        exact not_mem_of_mem_split hmem
      have hrest := List.splitOn_intercalate sep hfree (List.cons_ne_nil _ _)
      refine .inr ⟨[sep].intercalate (piece :: pieces), split_injective sep ?_⟩
      rw [split_append_cons, split_eq_splitOn sep (List.intercalate _ _), hrest, hpieces]
  · rintro (rfl | ⟨rest, rfl⟩)
    · exact List.prefix_rfl
    · rw [split_append_cons]
      exact List.prefix_append _ _

end Text

namespace Route

theorem under_iff_segments {start cs : List Char} :
    Under start cs ↔ segments start <+: segments cs := by
  rw [segments, segments, Text.split_isPrefix_iff]
  constructor
  · rintro ⟨rest, rfl, rfl | hslash⟩
    · exact .inl (List.append_nil _)
    · obtain ⟨tail, rfl⟩ := List.head?_eq_some_iff.1 hslash
      exact .inr ⟨tail, rfl⟩
  · rintro (rfl | ⟨rest, rfl⟩)
    · exact ⟨[], (List.append_nil _).symm, .inl rfl⟩
    · exact ⟨'/' :: rest, rfl, .inr rfl⟩

def slashes (n : ℕ) : String := String.ofList (List.replicate n '/')

theorem toList_trimSlashes (s : String) :
    (trimSlashes s).toList = s.toList.rdropWhile (· = '/') := String.toList_ofList

theorem exists_slashes (s : String) : ∃ n, s = trimSlashes s ++ slashes n := by
  have hslash : ∀ c ∈ s.toList.rtakeWhile (· = '/'), c = '/' := by
    intro c hc
    simpa using List.mem_rtakeWhile_imp hc
  refine ⟨(s.toList.rtakeWhile (· = '/')).length, String.toList_inj.1 ?_⟩
  rw [String.toList_append, toList_trimSlashes, slashes, String.toList_ofList,
    ← List.eq_replicate_iff.2 ⟨rfl, hslash⟩]
  exact List.rdropWhile_append_rtakeWhile.symm

theorem getLast?_trimSlashes (s : String) : (trimSlashes s).toList.getLast? ≠ some '/' := by
  rw [toList_trimSlashes]
  by_cases hne : s.toList.rdropWhile (· = '/') = []
  · rw [hne]
    exact nofun
  · have hlast := List.rdropWhile_last_not _ _ hne
    rw [List.getLast?_eq_some_getLast hne]
    simpa using hlast

theorem trimSlashes_append_slashes (s : String) (n : ℕ) :
    trimSlashes (s ++ slashes n) = trimSlashes s := by
  apply String.toList_inj.1
  rw [toList_trimSlashes, toList_trimSlashes, String.toList_append, slashes, String.toList_ofList]
  induction n with
  | zero => rw [List.replicate_zero, List.append_nil]
  | succ n ih =>
    rw [List.replicate_succ', ← List.append_assoc, List.rdropWhile_concat_pos _ _ _ (by simp)]
    exact ih

/-- Let a scope be cut off before the slashes at its end. The prefix matcher of the scope accepts a
path, by any method, if nothing is left of the scope or the segments of the path start with those of
what is left; the scope covers the path if it is so, or if `*` is left. The two therefore agree on
every scope but `*`, and more slashes at the end change nothing. -/
theorem prefixes_by_segments (scope path method : String) :
    ((∃ n, scope = trimSlashes scope ++ slashes n) ∧ (trimSlashes scope).toList.getLast? ≠ some '/') ∧
    ((Matcher.pathPrefix scope).accepts path method = true ↔
      trimSlashes scope = "" ∨ segments (trimSlashes scope).toList <+: segments path.toList) ∧
    (scopeCovers scope path = true ↔
      trimSlashes scope = "" ∨ trimSlashes scope = "*" ∨
        segments (trimSlashes scope).toList <+: segments path.toList) ∧
    (trimSlashes scope ≠ "*" → (Matcher.pathPrefix scope).accepts path method =
      scopeCovers scope path) ∧
    ∀ n, (Matcher.pathPrefix (scope ++ slashes n)).accepts path method =
      (Matcher.pathPrefix scope).accepts path method ∧
      scopeCovers (scope ++ slashes n) path = scopeCovers scope path := by
  have hmatcher := accepts_pathPrefix_iff scope path method
  have hscope := scopeCovers_iff scope path
  rw [under_iff_segments] at hmatcher hscope
  refine ⟨⟨exists_slashes scope, getLast?_trimSlashes scope⟩, hmatcher, hscope, ?_, ?_⟩
  · intro hstar
    rw [Bool.eq_iff_iff, hmatcher, hscope, or_iff_right hstar]
  · intro n
    rw [Matcher.pathPrefix, Matcher.pathPrefix, scopeCovers, scopeCovers, trimSlashes_append_slashes]
    exact ⟨rfl, rfl⟩

theorem prefixes_by_segments_doubled :
    trimSlashes "/ä//" = "/ä" ∧ trimSlashes "/ä//" ≠ "*" ∧
      (Matcher.pathPrefix "/ä//").accepts "/ä//x" "GET" = true ∧ scopeCovers "/ä//" "/ä//x" = true ∧
      ¬ (Matcher.pathPrefix "/ä//").accepts "/äx" "GET" = true := by
  obtain ⟨-, hinside, -, hagree, -⟩ := prefixes_by_segments "/ä//" "/ä//x" "GET"
  obtain ⟨-, hbeside, -⟩ := prefixes_by_segments "/ä//" "/äx" "GET"
  have htrimmed : trimSlashes "/ä//" = "/ä" := by decide
  have hstar : trimSlashes "/ä//" ≠ "*" := by decide
  have haccepts : (Matcher.pathPrefix "/ä//").accepts "/ä//x" "GET" = true :=
    hinside.2 (.inr (by decide))
  refine ⟨htrimmed, hstar, haccepts, (hagree hstar).symm.trans haccepts, ?_⟩
  rw [hbeside]
  decide

end Route

end FrontDoor
