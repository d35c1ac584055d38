import FrontDoor.Text.Split

namespace FrontDoor.Route

def segments (cs : List Char) : List (List Char) := Text.split '/' cs

inductive PathProblem where
  | noLeadingSlash
  | oldCapture
deriving DecidableEq

def PathProblem.text : PathProblem → String
  | noLeadingSlash => "path must start with '/'"
  | oldCapture => "captures must use \x7bname\x7d or \x7b*name\x7d"

def problem? (path : String) : Option PathProblem :=
  if path.toList.head? ≠ some '/' then some .noLeadingSlash
  else if (segments path.toList).any fun s ↦ s.head? = some ':' || s.head? = some '*' then
    some .oldCapture
  else none

def shapeChars (cs : List Char) : List Char :=
  match cs with
  | [] => []
  | c :: rest =>
    if c = '\x7b' then
      (if rest.head? = some '*' then ['\x7b', '*', '\x7d'] else ['\x7b', '\x7d'])
        ++ shapeChars ((rest.dropWhile (· ≠ '\x7d')).drop 1)
    else c :: shapeChars rest
termination_by cs.length
decreasing_by
  · have := (List.dropWhile_sublist (fun c : Char ↦ decide (c ≠ '\x7d')) (l := rest)).length_le
    simp only [List.length_drop, List.length_cons]
    omega
  · simp

def shape (path : String) : String := String.ofList (shapeChars path.toList)

end FrontDoor.Route
