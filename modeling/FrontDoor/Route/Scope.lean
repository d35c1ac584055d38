namespace FrontDoor.Route

def trimSlashes (s : String) : String :=
  String.ofList (s.toList.reverse.dropWhile (· = '/')).reverse

def without? : List Char → List Char → Option (List Char)
  | [], cs => some cs
  | _ :: _, [] => none
  | s :: start, c :: cs => if s = c then without? start cs else none

theorem without?_eq_some_iff {start cs rest : List Char} :
    without? start cs = some rest ↔ cs = start ++ rest := by
  induction start generalizing cs with
  | nil => simp [without?]
  | cons s start ih =>
    cases cs with
    | nil => simp [without?]
    | cons c cs =>
      by_cases h : s = c
      · simp [without?, h, ih]
      · simp [without?, h, Ne.symm h]

/-- Whether a scope covers a path. The empty scope, `/` and `*` cover every path. -/
def scopeCovers (scope path : String) : Bool :=
  let trimmed := trimSlashes scope
  if trimmed.isEmpty || trimmed == "*" then true
  else
    match without? trimmed.toList path.toList with
    | some rest => rest.isEmpty || rest.head? == some '/'
    | none => false

end FrontDoor.Route
