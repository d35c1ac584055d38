import FrontDoor.Proofs.HookLayer

namespace FrontDoor

def visible (c : Char) : Bool := ' ' ≤ c && c ≤ '~' || c = '\t'

theorem visible_of_toNat {c : Char} (hlow : 32 ≤ c.toNat) (hhigh : c.toNat ≤ 126) :
    visible c = true := by
  have h : ' ' ≤ c ∧ c ≤ '~' := ⟨hlow, hhigh⟩
  simp [visible, h]

namespace Uuid

open Text (hexDigit?)

theorem visible_of_hexDigit? {c : Char} {d : Fin 16} (h : hexDigit? c = some d) :
    visible c = true := by
  have hrange : (48 ≤ c.toNat ∧ c.toNat ≤ 57) ∨ (97 ≤ c.toNat ∧ c.toNat ≤ 102) ∨ 65 ≤ c.toNat ∧
      c.toNat ≤ 70 := by
    rw [hexDigit?] at h
    split_ifs at h with hdigit hlower hupper
    · exact .inl hdigit
    · exact .inr (.inl hlower)
    · exact .inr (.inr hupper)
  exact visible_of_toNat (by omega) (by omega)

theorem visible_of_ofSimple? {cs : List Char} {id : Uuid} (h : ofSimple? cs = some id) :
    ∀ c ∈ cs, visible c = true := by
  obtain ⟨ds, hds, -⟩ := Option.bind_eq_some_iff.1 h
  clear h
  induction cs generalizing ds with
  | nil => exact fun c hc ↦ absurd hc List.not_mem_nil
  | cons c cs ih =>
    rw [List.mapM_cons] at hds
    obtain ⟨d, hd, hrest⟩ := Option.bind_eq_some_iff.1 hds
    obtain ⟨es, hes, -⟩ := Option.bind_eq_some_iff.1 hrest
    exact List.forall_mem_cons.2 ⟨visible_of_hexDigit? hd, ih es hes⟩

theorem visible_of_ofHyphenated? {cs : List Char} {id : Uuid} (h : ofHyphenated? cs = some id) :
    ∀ c ∈ cs, visible c = true := by
  rw [ofHyphenated?] at h
  split_ifs at h with hform
  obtain ⟨-, h8, h13, h18, h23⟩ := hform
  have hhyphen {n : Nat} (hn : cs[n]? = some '-') : cs.drop n = '-' :: cs.drop (n + 1) := by
    obtain ⟨hlt, hget⟩ := List.getElem?_eq_some_iff.1 hn
    rw [List.drop_eq_getElem_cons hlt, hget]
  have hgroup (n : Nat) : cs.drop n = (cs.drop n).take 4 ++ cs.drop (n + 4) := by
    rw [← List.drop_drop, List.take_append_drop]
  have hcs : cs = cs.take 8 ++ '-' :: ((cs.drop 9).take 4 ++ '-' :: ((cs.drop 14).take 4 ++
      '-' :: ((cs.drop 19).take 4 ++ '-' :: cs.drop 24))) := by
    rw [← hhyphen h23, ← hgroup 19, ← hhyphen h18, ← hgroup 14, ← hhyphen h13, ← hgroup 9,
      ← hhyphen h8, List.take_append_drop]
  have hvisible := visible_of_ofSimple? h
  simp only [List.forall_mem_append] at hvisible
  obtain ⟨⟨⟨⟨hfirst, hsecond⟩, hthird⟩, hfourth⟩, hlast⟩ := hvisible
  have hmark : visible '-' = true := by decide
  rw [hcs]
  simp only [List.forall_mem_append, List.forall_mem_cons]
  exact ⟨hfirst, hmark, hsecond, hmark, hthird, hmark, hfourth, hmark, hlast⟩

theorem eq_of_unbraced? {cs inner : List Char} (h : unbraced? cs = some inner) :
    cs = '\x7b' :: (inner ++ ['\x7d']) := by
  unfold unbraced? at h
  split at h
  · rename_i rest
    split at h
    · rename_i reversed hrest
      obtain rfl : reversed.reverse = inner := Option.some.inj h
      rw [← List.reverse_cons, ← hrest, List.reverse_reverse]
    · cases h
  · cases h

theorem visible_of_toLower {c : Char} (h : visible c.toLower = true) : visible c = true := by
  by_cases hupper : 65 ≤ c.toNat ∧ c.toNat ≤ 90
  · exact visible_of_toNat (by omega) (by omega)
  · have hsame : c.toLower = c := dif_neg hupper
    rwa [hsame] at h

theorem visible_of_parse? {s : String} {id : Uuid} (h : parse? s = some id) :
    ∀ c ∈ s.toList, visible c = true := by
  rw [parse?, ofChars?] at h
  split_ifs at h
  · exact visible_of_ofSimple? h
  · exact visible_of_ofHyphenated? h
  · obtain ⟨inner, hinner, hread⟩ := Option.bind_eq_some_iff.1 h
    rw [eq_of_unbraced? hinner]
    simp only [List.forall_mem_cons, List.forall_mem_append]
    exact ⟨rfl, visible_of_ofHyphenated? hread, rfl, List.forall_mem_nil _⟩
  · obtain ⟨inner, hinner, hread⟩ := Option.bind_eq_some_iff.1 h
    rw [unmarked?] at hinner
    split_ifs at hinner with hmark
    obtain rfl : s.toList.drop urnMark.length = inner := Option.some.inj hinner
    have hvisible : ∀ c ∈ urnMark, visible c = true := List.all_eq_true.1 (by decide)
    rw [← hmark] at hvisible
    rw [← List.take_append_drop urnMark.length s.toList, List.forall_mem_append]
    refine ⟨fun c hc ↦ visible_of_toLower (hvisible _ (List.mem_map_of_mem hc)),
      visible_of_ofHyphenated? hread⟩

end Uuid

namespace Http

variable {υ : Type} (req : Request) (w : World υ)

/-- The identifier of a request: the one in its header whenever the header reads as one, in any
accepted form, and otherwise the next one that is made up. -/
inductive Identifies : Uuid → Prop
  | given {value : String} {id : Uuid} : req.headers.lookup "x-request-id" = some value →
      Uuid.parse? value = some id → Identifies id
  | generated : (∀ value, req.headers.lookup "x-request-id" = some value → Uuid.parse? value = none) →
      Identifies (World.identifier w.identifiers)

theorem header?_eq (name : String) :
    req.header? name = (req.headers.lookup name).filter fun value ↦ value.toList.all visible := by
  rw [Request.header?]
  generalize req.headers = hs
  induction hs with
  | nil => rfl
  | cons h hs ih =>
    obtain ⟨key, value⟩ := h
    by_cases hkey : key = name
    · rw [List.find?_cons_of_pos (by simp [hkey]), List.lookup_cons, hkey, beq_self_eq_true]
      rfl
    · rw [List.find?_cons_of_neg (by simp [hkey]), ih, List.lookup_cons,
        beq_eq_false_iff_ne.2 (Ne.symm hkey)]

theorem identifies_contextAt (seconds : Nat) :
    Identifies req w (contextAt w req seconds).requestId := by
  rw [contextAt, requestId?, requestIdHeader, header?_eq]
  cases hvalue : req.headers.lookup "x-request-id" with
  | none => exact .generated fun value h ↦ by cases hvalue.symm.trans h
  | some value =>
    cases hread : Uuid.parse? value with
    | none =>
      have hnone :
          ((some value).filter fun value ↦ value.toList.all visible).bind Uuid.parse? = none := by
        rw [Option.filter_some]
        split
        · exact hread
        · rfl
      rw [hnone]
      refine .generated fun other h ↦ ?_
      obtain rfl : value = other := Option.some.inj (hvalue.symm.trans h)
      exact hread
    | some id =>
      have hvisible : value.toList.all visible = true :=
        List.all_eq_true.2 (Uuid.visible_of_parse? hread)
      rw [Option.filter_some, hvisible, if_pos rfl, Option.bind_some, hread, Option.getD_some]
      exact .given hvalue hread

end Http

end FrontDoor
