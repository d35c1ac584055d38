import FrontDoor.Json.Printer
import FrontDoor.Json.Reader
import FrontDoor.Proofs.Dict

namespace FrontDoor.Json

open Reader

variable {α β : Type}

/-- A reader that stands before `cs` reads `a` and stops before `rest`, wherever in the text that
is. -/
def Reads (r : Reader α) (a : α) (cs rest : List Char) : Prop :=
  ∀ cur : Cursor, cur.rest = cs → ∃ cur' : Cursor, r cur = .ok a cur' ∧ cur'.rest = rest

namespace Cursor

theorem rest_past (cur : Cursor) (c : Char) (rest : List Char) : (cur.past c rest).rest = rest := by
  rw [past]
  split <;> rfl

theorem rest_skip (p : Char → Bool) (cur : Cursor) : (cur.skip p).rest = cur.rest.dropWhile p := by
  have hgo (cs : List Char) (cur : Cursor) (h : cur.rest = cs) :
      (skip.go p cs cur).rest = cs.dropWhile p := by
    induction cs generalizing cur with
    | nil => exact h
    | cons c cs ih =>
      rw [skip.go, List.dropWhile_cons]
      split
      · exact ih _ (rest_past cur c cs)
      · exact h
  exact hgo cur.rest cur rfl

end Cursor

namespace Reads

variable {r : Reader α} {f : α → Reader β} {a : α} {b : β} {cs ds rest : List Char}

theorem pure : Reads (Pure.pure a) a rest rest := fun cur h ↦ ⟨cur, rfl, h⟩

theorem bind (h : Reads r a cs ds) (hf : Reads (f a) b ds rest) : Reads (r >>= f) b cs rest := by
  intro cur hcur
  obtain ⟨cur₁, hr, hcur₁⟩ := h cur hcur
  obtain ⟨cur₂, hfa, hcur₂⟩ := hf cur₁ hcur₁
  refine ⟨cur₂, ?_, hcur₂⟩
  change EStateM.bind r f cur = _
  rw [EStateM.bind, hr]
  exact hfa

theorem placed (h : Reads r a cs rest) : Reads (Reader.placed r) a cs rest := by
  intro cur hcur
  obtain ⟨cur', hr, hcur'⟩ := h cur hcur
  refine ⟨cur', ?_, hcur'⟩
  rw [Reader.placed, hr]

theorem closedBy {close : Reader Unit} (h : Reads r a cs ds) (hclose : Reads close () ds rest) :
    Reads (Reader.closedBy close r) a cs rest := by
  intro cur hcur
  obtain ⟨cur₁, hr, hcur₁⟩ := h cur hcur
  obtain ⟨cur₂, hc, hcur₂⟩ := hclose cur₁ hcur₁
  refine ⟨cur₂, ?_, hcur₂⟩
  rw [Reader.closedBy, hr]
  dsimp only
  rw [hc]

theorem of_get {g : Cursor → Reader β} (h : ∀ cur : Cursor, cur.rest = cs → Reads (g cur) b cs rest) :
    Reads (get >>= g) b cs rest := fun cur hcur ↦ h cur hcur cur hcur

theorem modify {g : Cursor → Cursor} (h : ∀ cur : Cursor, cur.rest = cs → (g cur).rest = rest) :
    Reads (modify g) () cs rest := fun cur hcur ↦ ⟨g cur, rfl, h cur hcur⟩

theorem bump (c : Char) (rest : List Char) : Reads Reader.bump () (c :: rest) rest := by
  apply modify
  intro cur hcur
  rw [hcur]
  exact Cursor.rest_past cur c rest

theorem peek (rest : List Char) : Reads Reader.peek rest.head? rest rest :=
  of_get fun _ hcur ↦ hcur ▸ pure

theorem next (c : Char) (rest : List Char) : Reads Reader.next (some c) (c :: rest) rest :=
  (peek (c :: rest)).bind ((bump c rest).bind pure)

theorem fuelHere (cs : List Char) : Reads Reader.fuelHere (cs.length + 1) cs cs :=
  of_get fun _ hcur ↦ hcur ▸ pure

theorem takeWhile {p : Char → Bool} (h : ∀ c ∈ cs, p c = true)
    (hrest : ∀ c ∈ rest.head?, p c = false) :
    Reads (Reader.takeWhile p) cs (cs ++ rest) rest := by
  have hstop : rest.takeWhile p = [] ∧ rest.dropWhile p = rest := by
    cases rest with
    | nil => exact ⟨rfl, rfl⟩
    | cons c rest =>
      have hc : p c = false := hrest c rfl
      rw [List.takeWhile_cons, List.dropWhile_cons, hc]
      exact ⟨rfl, rfl⟩
  have htaken : (cs ++ rest).takeWhile p = cs := by
    rw [List.takeWhile_append_of_pos h, hstop.1, List.append_nil]
  have hleft : (cs ++ rest).dropWhile p = rest := by
    rw [List.dropWhile_append_of_pos h, hstop.2]
  apply of_get
  intro cur hcur
  rw [hcur, htaken]
  refine bind (modify fun cur hcur ↦ ?_) pure
  rw [Cursor.rest_skip, hcur, hleft]

theorem word (cs rest : List Char) : Reads (Reader.word cs) () (cs ++ rest) rest := by
  induction cs with
  | nil => exact pure
  | cons c cs ih =>
    apply (next c (cs ++ rest)).bind
    dsimp only
    rw [if_pos rfl]
    exact ih

theorem peekToken {c : Char} (h : c ∉ [' ', '\n', '\t', '\r']) :
    Reads Reader.peekToken (some c) (c :: rest) (c :: rest) := by
  have hblank :
      (decide (c = ' ') || decide (c = '\n') || decide (c = '\t') || decide (c = '\r')) = false := by
    simpa [and_assoc] using h
  refine bind (modify fun cur hcur ↦ ?_) (peek (c :: rest))
  rw [Cursor.rest_skip, hcur, List.dropWhile_cons, hblank]
  rfl

end Reads

def Ends (rest : List Char) : Prop := ∀ c ∈ rest.head?, c ∈ [',', ']', '\x7d']

theorem ends_cons {c : Char} (h : c ∈ [',', ']', '\x7d']) (rest : List Char) : Ends (c :: rest) := by
  intro d hd
  rwa [← Option.some.inj hd]

namespace Ends

variable {rest : List Char}

theorem head?_ne (h : Ends rest) {c : Char} (hc : c ∉ [',', ']', '\x7d']) : rest.head? ≠ some c :=
  fun heq ↦ hc (h c heq)

theorem not_isDigit (h : Ends rest) : ∀ c ∈ rest.head?, Decimal.isDigit c = false := by
  have hall : ∀ c ∈ [',', ']', '\x7d'], Decimal.isDigit c = false := by
    simp only [List.forall_mem_cons]
    exact ⟨rfl, rfl, rfl, List.forall_mem_nil _⟩
  exact fun c hc ↦ hall c (h c hc)

theorem wholeDigits (hrest : Ends rest) (n : Nat) :
    Reads wholeDigits (Nat.toDigits 10 n) (Nat.toDigits 10 n ++ rest) rest := by
  rcases Nat.eq_zero_or_pos n with rfl | hpos
  · refine (Reads.next '0' rest).bind ((Reads.peek rest).bind ?_)
    cases rest with
    | nil => exact .pure
    | cons c rest =>
      dsimp only [List.head?_cons]
      rw [hrest.not_isDigit c rfl]
      exact .pure
  · obtain ⟨c, cs, hcs, hc⟩ := Decimal.exists_toDigits_eq_cons hpos
    have hdigit (d : Char) (hd : d ∈ c :: cs) : Decimal.isDigit d = true :=
      Decimal.isDigit_of_mem_toDigits (hcs ▸ hd)
    rw [hcs]
    apply (Reads.next c (cs ++ rest)).bind
    split
    · rename_i heq
      cases heq
    · rename_i heq
      exact absurd (Option.some.inj heq) hc
    · rename_i d _ heq
      obtain rfl : c = d := Option.some.inj heq
      rw [if_pos (hdigit c List.mem_cons_self)]
      have htake := Reads.takeWhile (fun d hd ↦ hdigit d (List.mem_cons_of_mem c hd)) hrest.not_isDigit
      exact htake.bind .pure

theorem fractionDigits (hrest : Ends rest) : Reads fractionDigits none rest rest := by
  apply (Reads.peek rest).bind
  rw [if_pos (hrest.head?_ne (by decide))]
  exact .pure

theorem exponentPart (hrest : Ends rest) (nonzero : Bool) :
    Reads (exponentPart nonzero) none rest rest := by
  apply (Reads.peek rest).bind
  dsimp only
  rw [if_pos ⟨hrest.head?_ne (by decide), hrest.head?_ne (by decide)⟩]
  exact .pure

theorem number (hrest : Ends rest) (negative : Bool) {n : Nat}
    (hn : if negative then 0 < n ∧ n ≤ 0x8000000000000000 else n < 0x10000000000000000) :
    Reads (number negative) (.int (if negative then -(n : Int) else n))
      (Nat.toDigits 10 n ++ rest) rest := by
  refine (hrest.wholeDigits n).bind (hrest.fractionDigits.bind ((hrest.exponentPart _).bind ?_))
  have hdigits : Decimal.ofDigits (Nat.toDigits 10 n ++ (none : Option (List Char)).getD []) = n := by
    rw [Option.getD_none, List.append_nil, Decimal.ofDigits_toDigits]
  dsimp only
  rw [hdigits, if_pos ⟨rfl, rfl, hn⟩]
  exact .pure

end Ends

def spelling (s : String) : List Char := s.toList.flatMap fun c ↦ (escapeChar c).toList

theorem toList_quote (s : String) : (quote s).toList = '"' :: (spelling s ++ ['"']) := by
  have hfold (cs : List Char) (acc : String) :
      (cs.foldl (fun acc c ↦ acc ++ escapeChar c) acc).toList =
      acc.toList ++ cs.flatMap fun c ↦ (escapeChar c).toList := by
    induction cs generalizing acc with
    | nil => rw [List.foldl_nil, List.flatMap_nil, List.append_nil]
    | cons c cs ih =>
      rw [List.foldl_cons, ih, String.toList_append, List.append_assoc,
        List.flatMap_cons]
  rw [quote, String.toList_append, String.toList_append, hfold]
  rfl

theorem toList_escape_control : ∀ n < 32,
    (if n < 16 then "\\u000" ++ Text.digitsIn 16 n else "\\u00" ++ Text.digitsIn 16 n).toList =
        ['\\', 'u', '0', '0', Nat.digitChar (n / 16), Nat.digitChar (n % 16)] ∧
      Text.hexNumber? ['0', '0', Nat.digitChar (n / 16), Nat.digitChar (n % 16)] = some n ∧
      ['0', '0', Nat.digitChar (n / 16), Nat.digitChar (n % 16)].all
      (fun c ↦ c.utf8Size = 1) = true := by
  decide +kernel

theorem length_escapeChar_pos (c : Char) : 0 < (escapeChar c).toList.length := by
  rw [escapeChar]
  split_ifs <;> simp [Char.toString]

theorem length_le_flatMap {f : α → List Char} (h : ∀ a, 0 < (f a).length) (as : List α) :
    as.length ≤ (as.flatMap f).length := by
  induction as with
  | nil => exact Nat.zero_le _
  | cons a as ih =>
    have ha := h a
    rw [List.flatMap_cons, List.length_append, List.length_cons]
    omega

variable {c : Char} {cs ds rest : List Char}

theorem reads_bumpBytes (taken rest : List Char) (h : ∀ c ∈ cs, c.utf8Size = 1) :
    Reads (bumpBytes cs.length taken) (some (taken.reverse ++ cs)) (cs ++ rest) rest := by
  induction cs generalizing taken with
  | nil =>
    rw [List.length_nil, bumpBytes, List.append_nil]
    exact .pure
  | cons c cs ih =>
    have hsize := h c List.mem_cons_self
    have hread := ih (c :: taken) fun d hd ↦ h d (List.mem_cons_of_mem c hd)
    rw [List.reverse_cons, List.append_assoc] at hread
    rw [List.length_cons, bumpBytes]
    apply Reads.of_get
    intro cur hcur
    rw [hcur]
    dsimp only [List.cons_append]
    rw [if_pos (by omega), hsize]
    exact .bind (.modify fun _ _ ↦ Cursor.rest_past cur c (cs ++ rest)) hread

theorem reads_hexQuad {n : Nat} (hlength : cs.length = 4) (h : ∀ c ∈ cs, c.utf8Size = 1)
    (hn : Text.hexNumber? cs = some n) : Reads hexQuad n (cs ++ rest) rest := by
  have hbytes := reads_bumpBytes [] rest h
  rw [hlength, List.reverse_nil, List.nil_append] at hbytes
  apply hbytes.bind
  dsimp only
  rw [if_pos hlength, hn]
  exact .pure

theorem reads_escape_simple {d : Char} (h : simpleEscape? d = some c) (rest : List Char) :
    Reads escape c (d :: rest) rest := by
  apply (Reads.next d rest).bind
  split
  · rename_i heq
    cases heq
  · rename_i heq
    rw [Option.some.inj heq] at h
    cases h
  · rename_i e _ heq
    obtain rfl : d = e := Option.some.inj heq
    rw [h]
    exact .pure

theorem reads_escape_unicode (hc : c.toNat < 32) (rest : List Char) : Reads escape c
    ('u' :: '0' :: '0' :: Nat.digitChar (c.toNat / 16) :: Nat.digitChar (c.toNat % 16) :: rest)
      rest := by
  obtain ⟨-, hnumber, hall⟩ := toList_escape_control c.toNat hc
  have hsize := fun d hd ↦ of_decide_eq_true (List.all_eq_true.1 hall d hd)
  refine (Reads.next 'u' _).bind ((reads_hexQuad rfl hsize hnumber).bind ?_)
  -- A control character is no half of a pair.
  rw [if_neg (by omega), if_pos (.inl (by omega)), Char.ofNat_toNat]
  exact .pure

section

variable {fuel : Nat} {read : List Char} {s : String}

theorem reads_stringLoop_escape (hescape : Reads escape c cs ds)
    (h : Reads (stringLoop fuel (c :: read)) s ds rest) :
    Reads (stringLoop (fuel + 1) read) s ('\\' :: cs) rest :=
  (Reads.next '\\' cs).bind (hescape.bind h)

theorem reads_stringLoop_plain (hquote : c ≠ '"') (hslash : c ≠ '\\') (hcontrol : ¬ c < ' ')
    (h : Reads (stringLoop fuel (c :: read)) s cs rest) :
    Reads (stringLoop (fuel + 1) read) s (c :: cs) rest := by
  apply (Reads.next c cs).bind
  split
  · rename_i heq
    cases heq
  · rename_i heq
    exact absurd (Option.some.inj heq) hquote
  · rename_i heq
    exact absurd (Option.some.inj heq) hslash
  · rename_i d _ _ heq
    obtain rfl : c = d := Option.some.inj heq
    rw [if_neg hcontrol]
    exact h

theorem reads_stringLoop_escapeChar (h : Reads (stringLoop fuel (c :: read)) s cs rest) :
    Reads (stringLoop (fuel + 1) read) s ((escapeChar c).toList ++ cs) rest := by
  have hsimple {d : Char} (hd : simpleEscape? d = some c) :
      Reads (stringLoop (fuel + 1) read) s ('\\' :: d :: cs) rest :=
    reads_stringLoop_escape (reads_escape_simple hd cs) h
  rw [escapeChar]
  split_ifs with hquote hslash hnewline hreturn htab hback hfeed hfew hcontrol
  · exact hsimple (d := '"') (congrArg some hquote.symm)
  · exact hsimple (d := '\\') (congrArg some hslash.symm)
  · exact hsimple (d := 'n') (congrArg some hnewline.symm)
  · exact hsimple (d := 'r') (congrArg some hreturn.symm)
  · exact hsimple (d := 't') (congrArg some htab.symm)
  · exact hsimple (d := 'b') (congrArg some (Char.toNat_inj.1 hback.symm))
  · exact hsimple (d := 'f') (congrArg some (Char.toNat_inj.1 hfeed.symm))
  · obtain ⟨htext, -⟩ := toList_escape_control c.toNat (by omega)
    rw [if_pos hfew] at htext
    rw [htext]
    exact reads_stringLoop_escape (reads_escape_unicode (by omega) cs) h
  · obtain ⟨htext, -⟩ := toList_escape_control c.toNat hcontrol
    rw [if_neg hfew] at htext
    rw [htext]
    exact reads_stringLoop_escape (reads_escape_unicode hcontrol cs) h
  · rw [Char.toString, String.toList_singleton]
    exact reads_stringLoop_plain hquote hslash hcontrol h

theorem reads_stringLoop (read rest : List Char) (h : cs.length < fuel) :
    Reads (stringLoop fuel read) (String.ofList (read.reverse ++ cs))
      ((cs.flatMap fun c ↦ (escapeChar c).toList) ++ '"' :: rest) rest := by
  induction cs generalizing fuel read with
  | nil =>
    obtain ⟨n, rfl⟩ := Nat.exists_eq_add_one_of_ne_zero (Nat.ne_of_gt h)
    rw [List.append_nil]
    exact (Reads.next '"' rest).bind .pure
  | cons c cs ih =>
    obtain ⟨n, rfl⟩ := Nat.exists_eq_add_one_of_ne_zero (Nat.ne_of_gt (Nat.zero_lt_of_lt h))
    have hread := ih (c :: read) (Nat.lt_of_succ_lt_succ h)
    rw [List.reverse_cons, List.append_assoc] at hread
    rw [List.flatMap_cons, List.append_assoc]
    exact reads_stringLoop_escapeChar hread

end

theorem reads_string (s : String) (rest : List Char) :
    Reads string s (spelling s ++ '"' :: rest) rest := by
  apply Reads.of_get
  intro cur hcur
  have hfuel : s.toList.length < cur.rest.length + 1 := by
    have hlength := length_le_flatMap length_escapeChar_pos s.toList
    rw [hcur, spelling, List.length_append]
    omega
  have hread := reads_stringLoop [] rest hfuel
  rw [List.reverse_nil, List.nil_append, String.ofList_toList] at hread
  exact hread

def Opens (cs : List Char) : Prop := ∃ c ds, cs = c :: ds ∧ c ∉ [' ', '\n', '\t', '\r', ']']

def Inverts (item : Reader Json) (j : Json) : Prop :=
  ∀ rest, Ends rest → Reads item j ((write j).toList ++ rest) rest

/-- A double whose text reads back. -/
structure Legible (x : Float) : Prop where
  opens : Opens (write (.double x)).toList
  inverts : ∀ depth, Inverts (value (depth + 1)) (.double x)

/-- Values that their text tells exactly: doubles are legible, whole numbers fit, and lists and
objects are nested at most `depth` deep. -/
inductive Plain : Nat → Json → Prop
  | null {depth : Nat} : Plain depth .null
  | bool {depth : Nat} (b : Bool) : Plain depth (.bool b)
  | int {depth : Nat} {n : Int} :
    -0x8000000000000000 ≤ n → n < 0x10000000000000000 → Plain depth (.int n)
  | double {depth : Nat} {x : Float} : Legible x → Plain depth (.double x)
  | text {depth : Nat} (s : String) : Plain depth (.text s)
  | list {depth : Nat} {items : List Json} :
    (∀ j ∈ items, Plain depth j) → Plain (depth + 1) (.list items)
  | object {depth : Nat} {members : List (String × Json)} : members.Pairwise (fun a b ↦ a.1 < b.1) →
      (∀ m ∈ members, Plain depth m.2) → Plain (depth + 1) (.object members)

theorem Opens.append (h : Opens cs) (rest : List Char) : Opens (cs ++ rest) := by
  obtain ⟨c, ds, rfl, hc⟩ := h
  exact ⟨c, ds ++ rest, rfl, hc⟩

theorem not_mem_of_isDigit (h : Decimal.isDigit c = true) : c ∉ [' ', '\n', '\t', '\r', ']'] := by
  have hall : ∀ c ∈ [' ', '\n', '\t', '\r', ']'], Decimal.isDigit c = false := by
    simp only [List.forall_mem_cons]
    exact ⟨rfl, rfl, rfl, rfl, rfl, List.forall_mem_nil _⟩
  intro hmem
  cases (hall c hmem).symm.trans h

theorem opens_toDigits (n : Nat) : Opens (Nat.toDigits 10 n) := by
  obtain ⟨c, cs, hcs⟩ := List.exists_cons_of_ne_nil (Nat.toDigits_ne_nil (b := 10) (n := n))
  exact ⟨c, cs, hcs, not_mem_of_isDigit (Decimal.isDigit_of_mem_toDigits (hcs ▸ List.mem_cons_self))⟩

theorem toList_toString (n : Int) :
    (toString n).toList = if n < 0 then '-' :: Nat.toDigits 10 n.natAbs
      else Nat.toDigits 10 n.natAbs := by
  cases n with
  | ofNat n =>
    rw [if_neg (by simp)]
    exact Nat.toList_repr
  | negSucc n =>
    rw [if_pos (Int.negSucc_lt_zero n)]
    exact (String.toList_append ..).trans (congrArg ('-' :: ·) Nat.toList_repr)

theorem plain_ofFloat {x : Float} (h : Legible x) (depth : Nat) : Plain depth (.ofFloat x) := by
  rw [ofFloat]
  split
  · exact .double h
  · exact .null

theorem Plain.opens {depth : Nat} {j : Json} (h : Plain depth j) : Opens (write j).toList := by
  cases h with
  | null => exact ⟨'n', _, rfl, by decide⟩
  | bool b => cases b <;> exact ⟨_, _, rfl, by decide⟩
  | int =>
    rw [write, toList_toString]
    split
    · exact ⟨'-', _, rfl, by decide⟩
    · exact opens_toDigits _
  | double h => exact h.opens
  | text s =>
    rw [write, toList_quote]
    exact ⟨'"', _, rfl, by decide⟩
  | list =>
    rw [write, String.toList_append, String.toList_append]
    exact ⟨'[', _, rfl, by decide⟩
  | object =>
    rw [write, String.toList_append, String.toList_append]
    exact ⟨'\x7b', _, rfl, by decide⟩

theorem ends_flatMap {f : α → List Char} {as : List α} (hc : c ∈ [',', ']', '\x7d'])
    (rest : List Char) :
    Ends ((as.flatMap fun a ↦ ',' :: f a) ++ c :: rest) := by
  cases as with
  | nil => exact ends_cons hc rest
  | cons a as => exact ends_cons (by decide) _

theorem intercalate_cons (cs : List Char) (css : List (List Char)) :
    [','].intercalate (cs :: css) = cs ++ css.flatMap (',' :: ·) := by
  induction css generalizing cs with
  | nil => rw [List.intercalate_singleton, List.flatMap_nil, List.append_nil]
  | cons ds dss ih =>
    rw [List.intercalate_cons_cons, ih, List.flatMap_cons, List.append_assoc]
    rfl

theorem writeItems_eq_map (items : List Json) : writeItems items = items.map write := by
  induction items with
  | nil => rfl
  | cons j js ih => rw [writeItems, ih, List.map_cons]

def spellMember (m : String × Json) : List Char :=
  '"' :: (spelling m.1 ++ '"' :: ':' :: (write m.2).toList)

theorem map_toList_writeMembers (ms : List (String × Json)) :
    (writeMembers ms).map String.toList = ms.map spellMember := by
  induction ms with
  | nil => rfl
  | cons m ms ih =>
    obtain ⟨key, value⟩ := m
    rw [writeMembers, List.map_cons, List.map_cons, ih, String.toList_append, String.toList_append,
      toList_quote]
    simp [spellMember]

theorem toList_items (j : Json) (js : List Json) : (",".intercalate (writeItems (j :: js))).toList =
    (write j).toList ++ js.flatMap fun j ↦ ',' :: (write j).toList := by
  rw [writeItems_eq_map, String.toList_intercalate, List.map_cons, List.map_cons, List.map_map]
  exact (intercalate_cons ..).trans (congrArg (_ ++ ·) (List.flatMap_map ..))

theorem toList_members (m : String × Json) (ms : List (String × Json)) :
    (",".intercalate (writeMembers (m :: ms))).toList =
      spellMember m ++ ms.flatMap fun m ↦ ',' :: spellMember m := by
  rw [String.toList_intercalate, map_toList_writeMembers, List.map_cons]
  exact (intercalate_cons ..).trans (congrArg (_ ++ ·) (List.flatMap_map ..))

theorem reads_hasElement_first (h : Opens cs) : Reads (hasElement true) true cs cs := by
  obtain ⟨c, ds, rfl, hc⟩ := h
  simp only [List.mem_cons, List.not_mem_nil, or_false, not_or] at hc
  apply (Reads.peekToken (by simp [hc])).bind
  split
  · rename_i heq
    cases heq
  · rename_i heq
    exact absurd (Option.some.inj heq) hc.2.2.2.2
  · exact .pure

theorem reads_hasElement_comma (h : Opens cs) : Reads (hasElement false) true (',' :: cs) cs := by
  obtain ⟨c, ds, rfl, hc⟩ := h
  simp only [List.mem_cons, List.not_mem_nil, or_false, not_or] at hc
  apply (Reads.peekToken (by decide)).bind
  refine (Reads.bump ',' (c :: ds)).bind ((Reads.peekToken (by simp [hc])).bind ?_)
  split
  · rename_i heq
    cases heq
  · rename_i heq
    exact absurd (Option.some.inj heq) hc.2.2.2.2
  · exact .pure

theorem reads_hasElement_end (first : Bool) (rest : List Char) :
    Reads (hasElement first) false (']' :: rest) (']' :: rest) :=
  (Reads.peekToken (by decide)).bind .pure

theorem reads_hasMember_first (cs : List Char) : Reads (hasMember true) true ('"' :: cs) ('"' :: cs) :=
  (Reads.peekToken (by decide)).bind .pure

theorem reads_hasMember_comma (cs : List Char) :
    Reads (hasMember false) true (',' :: '"' :: cs) ('"' :: cs) :=
  (Reads.peekToken (by decide)).bind
    ((Reads.bump ',' _).bind ((Reads.peekToken (by decide)).bind .pure))

theorem reads_hasMember_end (first : Bool) (rest : List Char) :
    Reads (hasMember first) false ('\x7d' :: rest) ('\x7d' :: rest) :=
  (Reads.peekToken (by decide)).bind .pure

theorem reads_closeList (rest : List Char) : Reads closeList () (']' :: rest) rest :=
  (Reads.peekToken (by decide)).bind (Reads.bump ']' rest)

theorem reads_closeObject (rest : List Char) : Reads closeObject () ('\x7d' :: rest) rest :=
  (Reads.peekToken (by decide)).bind (Reads.bump '\x7d' rest)

theorem reads_colon (rest : List Char) : Reads colon () (':' :: rest) rest :=
  (Reads.peekToken (by decide)).bind (Reads.bump ':' rest)

section

variable {item : Reader Json} {j : Json} {js : List Json} {fuel : Nat}

theorem reads_elements_rest (h : ∀ j ∈ js, Opens (write j).toList ∧ Inverts item j)
    (hfuel : js.length < fuel) (read : List Json) (rest : List Char) :
    Reads (elements item fuel false read) (read.reverse ++ js)
      ((js.flatMap fun j ↦ ',' :: (write j).toList) ++ ']' :: rest) (']' :: rest) := by
  induction js generalizing fuel read with
  | nil =>
    obtain ⟨n, rfl⟩ := Nat.exists_eq_add_one_of_ne_zero (Nat.ne_of_gt hfuel)
    rw [List.append_nil]
    exact (reads_hasElement_end false rest).bind .pure
  | cons j js ih =>
    obtain ⟨n, rfl⟩ := Nat.exists_eq_add_one_of_ne_zero (Nat.ne_of_gt (Nat.zero_lt_of_lt hfuel))
    obtain ⟨hopens, hread⟩ := h j List.mem_cons_self
    have hrest := ih (fun i hi ↦ h i (List.mem_cons_of_mem j hi)) (Nat.lt_of_succ_lt_succ hfuel)
        (j :: read)
    rw [List.reverse_cons, List.append_assoc] at hrest
    rw [List.flatMap_cons, List.append_assoc]
    apply (reads_hasElement_comma (hopens.append _)).bind
    rw [if_pos rfl]
    exact (hread _ (ends_flatMap (by decide) rest)).bind hrest

theorem reads_elements (h : ∀ j ∈ js, Opens (write j).toList ∧ Inverts item j) (rest : List Char)
    (hfuel : ((",".intercalate (writeItems js)).toList ++ ']' :: rest).length < fuel) :
    Reads (elements item fuel true []) js ((",".intercalate (writeItems js)).toList ++ ']' :: rest)
      (']' :: rest) := by
  obtain ⟨n, rfl⟩ := Nat.exists_eq_add_one_of_ne_zero (Nat.ne_of_gt (Nat.zero_lt_of_lt hfuel))
  cases js with
  | nil => exact (reads_hasElement_end true rest).bind .pure
  | cons j js =>
    obtain ⟨hopens, hread⟩ := h j List.mem_cons_self
    rw [toList_items, List.append_assoc] at hfuel ⊢
    -- Every further element is behind a comma, so the text is longer than the list.
    have hlength : js.length < n := by
      have hle := length_le_flatMap (f := fun j ↦ ',' :: (write j).toList) (fun _ ↦ Nat.succ_pos _) js
      simp only [List.length_append, List.length_cons] at hfuel
      omega
    apply (reads_hasElement_first (hopens.append _)).bind
    rw [if_pos rfl]
    apply (hread _ (ends_flatMap (by decide) rest)).bind
    exact reads_elements_rest (fun i hi ↦ h i (List.mem_cons_of_mem j hi)) hlength [j] rest

variable {m : String × Json} {ms read : List (String × Json)}

theorem reads_member (h : Inverts item m.2) (hread : ∀ e ∈ read, e.1 < m.1) (hrest : Ends rest)
    {f : List (String × Json) → Reader α} {a : α} (hf : Reads (f (read ++ [m])) a rest ds) :
    Reads (do bump; let key ← string; let read ← member item key read; f read) a
      (spellMember m ++ rest) ds := by
  have hput : Dict.put m.1 m.2 read = read ++ [m] := Dict.put_eq_concat m.2 hread
  rw [spellMember, List.cons_append, List.append_assoc, List.cons_append, List.cons_append]
  refine (Reads.bump '"' _).bind ((reads_string m.1 _).bind (.bind ?_ hf))
  refine (reads_colon _).bind ((h rest hrest).bind ?_)
  rw [hput]
  exact .pure

theorem reads_members_rest (h : ∀ m ∈ ms, Inverts item m.2) (hfuel : ms.length < fuel)
    (hkeys : (read ++ ms).Pairwise fun a b ↦ a.1 < b.1) (rest : List Char) :
    Reads (members (member item) fuel false read) (read ++ ms)
      ((ms.flatMap fun m ↦ ',' :: spellMember m) ++ '\x7d' :: rest) ('\x7d' :: rest) := by
  induction ms generalizing fuel read with
  | nil =>
    obtain ⟨n, rfl⟩ := Nat.exists_eq_add_one_of_ne_zero (Nat.ne_of_gt hfuel)
    rw [List.append_nil]
    exact (reads_hasMember_end false rest).bind .pure
  | cons m ms ih =>
    obtain ⟨n, rfl⟩ := Nat.exists_eq_add_one_of_ne_zero (Nat.ne_of_gt (Nat.zero_lt_of_lt hfuel))
    have hread : ∀ e ∈ read, e.1 < m.1 :=
      fun e he ↦ (List.pairwise_append.1 hkeys).2.2 e he m List.mem_cons_self
    rw [List.flatMap_cons, List.append_assoc, List.append_cons read m ms]
    rw [List.append_cons] at hkeys
    have hrest := ih (fun i hi ↦ h i (List.mem_cons_of_mem m hi)) (Nat.lt_of_succ_lt_succ hfuel) hkeys
    apply (reads_hasMember_comma _).bind
    rw [if_pos rfl]
    exact reads_member (h m List.mem_cons_self) hread (ends_flatMap (by decide) rest) hrest

theorem reads_members (h : ∀ m ∈ ms, Inverts item m.2) (hkeys : ms.Pairwise fun a b ↦ a.1 < b.1)
    (rest : List Char)
    (hfuel : ((",".intercalate (writeMembers ms)).toList ++ '\x7d' :: rest).length < fuel) :
    Reads (members (member item) fuel true []) ms
      ((",".intercalate (writeMembers ms)).toList ++ '\x7d' :: rest) ('\x7d' :: rest) := by
  obtain ⟨n, rfl⟩ := Nat.exists_eq_add_one_of_ne_zero (Nat.ne_of_gt (Nat.zero_lt_of_lt hfuel))
  cases ms with
  | nil => exact (reads_hasMember_end true rest).bind .pure
  | cons m ms =>
    rw [toList_members, List.append_assoc] at hfuel ⊢
    have hlength : ms.length < n := by
      have hle := length_le_flatMap (f := fun m ↦ ',' :: spellMember m) (fun _ ↦ Nat.succ_pos _) ms
      simp only [List.length_append, List.length_cons] at hfuel
      omega
    have hrest : Reads (members (member item) n false [m]) (m :: ms) _ _ :=
      reads_members_rest (fun i hi ↦ h i (List.mem_cons_of_mem m hi)) hlength hkeys rest
    apply (reads_hasMember_first _).bind
    rw [if_pos rfl]
    exact reads_member (h m List.mem_cons_self) (List.forall_mem_nil _)
      (ends_flatMap (by decide) rest) hrest

end

theorem inverts_int {n : Int} (hlow : -0x8000000000000000 ≤ n) (hhigh : n < 0x10000000000000000)
    (depth : Nat) :
    Inverts (value (depth + 1)) (.int n) := by
  intro rest hrest
  rw [value, write, toList_toString]
  apply Reads.placed
  by_cases hneg : n < 0
  · have hread := hrest.number true (n := n.natAbs) (by rw [if_pos rfl]; omega)
    have heq : -(n.natAbs : Int) = n := by omega
    rw [if_pos rfl, heq] at hread
    rw [if_pos hneg]
    exact (Reads.peekToken (by decide)).bind ((Reads.bump '-' _).bind hread)
  · have hread := hrest.number false (n := n.natAbs) (by rw [if_neg (by decide)]; omega)
    have heq : (n.natAbs : Int) = n := by omega
    rw [if_neg (by decide), heq] at hread
    rw [if_neg hneg]
    obtain ⟨c, cs, hcs, hblank⟩ := opens_toDigits n.natAbs
    have hdigit : Decimal.isDigit c = true :=
      Decimal.isDigit_of_mem_toDigits (hcs ▸ List.mem_cons_self)
    rw [hcs] at hread ⊢
    apply (Reads.peekToken fun hmem ↦ hblank (List.mem_append_left [']'] hmem)).bind
    split
    -- A digit is none of the characters that open other values.
    all_goals
      rename_i heq
      cases heq
    all_goals first
      | exact absurd hdigit (by decide)
      | skip
    rw [if_pos hdigit]
    exact hread

theorem reads_enter (depth : Nat) (c : Char) (rest : List Char) :
    Reads (enter (depth + 1)) () (c :: rest) rest := Reads.bump c rest

theorem Plain.inverts {depth : Nat} {j : Json} (h : Plain depth j) :
    Inverts (value (depth + 1)) j := by
  induction h with
  | null =>
    intro rest _
    rw [value]
    refine .placed ((Reads.peekToken (by decide)).bind ((Reads.bump 'n' _).bind ?_))
    exact (Reads.word ['u', 'l', 'l'] rest).bind .pure
  | bool b =>
    intro rest _
    rw [value]
    cases b with
    | false =>
      refine .placed ((Reads.peekToken (by decide)).bind ((Reads.bump 'f' _).bind ?_))
      exact (Reads.word ['a', 'l', 's', 'e'] rest).bind .pure
    | true =>
      refine .placed ((Reads.peekToken (by decide)).bind ((Reads.bump 't' _).bind ?_))
      exact (Reads.word ['r', 'u', 'e'] rest).bind .pure
  | int hlow hhigh => exact inverts_int hlow hhigh _
  | double h => exact h.inverts _
  | text s =>
    intro rest _
    rw [value, write, toList_quote, List.cons_append, List.append_assoc]
    refine .placed ((Reads.peekToken (by decide)).bind ((Reads.bump '"' _).bind ?_))
    exact (reads_string s rest).bind .pure
  | @list depth items hitems ih =>
    intro rest _
    have hbody := reads_elements (fun j hj ↦ ⟨(hitems j hj).opens, ih j hj⟩) rest (Nat.lt_succ_self _)
    rw [value, write, String.toList_append, String.toList_append, List.append_assoc, List.append_assoc]
    refine .placed ((Reads.peekToken (by decide)).bind ((reads_enter depth '[' _).bind ?_))
    exact .closedBy ((Reads.fuelHere _).bind (hbody.bind .pure)) (reads_closeList rest)
  | @object depth ms hkeys _ ih =>
    intro rest _
    have hbody := reads_members ih hkeys rest (Nat.lt_succ_self _)
    rw [value, write, String.toList_append, String.toList_append, List.append_assoc, List.append_assoc]
    refine .placed ((Reads.peekToken (by decide)).bind ((reads_enter depth '\x7b' _).bind ?_))
    exact .closedBy ((Reads.fuelHere _).bind (hbody.bind .pure)) (reads_closeObject rest)

theorem parse_write {j : Json} (h : Plain maxDepth j) : parse (write j) = .ok j := by
  have hwhole : Reads (do
      let a ← value (maxDepth + 1)
      if (← peekToken).isSome then failAhead .trailingCharacters
      return a) j ((write j).toList ++ []) [] := by
    have hend : Reads peekToken none [] [] := by
      refine .bind (.modify fun cur hcur ↦ ?_) (.peek [])
      rw [Cursor.rest_skip, hcur]
      rfl
    exact (h.inverts [] (by simp [Ends])).bind (hend.bind .pure)
  rw [List.append_nil] at hwhole
  obtain ⟨cur, hrun, -⟩ := hwhole (Cursor.start (write j)) rfl
  rw [parse, run]
  dsimp only
  rw [hrun]

end FrontDoor.Json
