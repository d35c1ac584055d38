import FrontDoor.Config.Value
import FrontDoor.Toml.Text

namespace FrontDoor.Config

inductive Step where
  | key (name : String)
  | index (place : Int)

namespace Path

def name? (cs : List Char) : Option (Step × List Char) :=
  let name := cs.takeWhile Toml.Reader.isKeyChar
  if name.isEmpty then none else some (.key (String.ofList name), cs.dropWhile Toml.Reader.isKeyChar)

def index? (cs : List Char) : Option (Step × List Char) := do
  let cs := cs.dropWhile Toml.Reader.isBlank
  let (negative, digits) := match cs with
    | '-' :: rest => (true, rest)
    | rest => (false, rest)
  let n ← Decimal.natural? (digits.takeWhile Decimal.isDigit)
  let place : Int := if negative then -n else n
  guard (-0x8000000000000000 ≤ place ∧ place < 0x8000000000000000)
  match (digits.dropWhile Decimal.isDigit).dropWhile Toml.Reader.isBlank with
  | ']' :: rest => return (.index place, rest)
  | _ => none

def steps? : Nat → List Char → Option (List Step)
  | _, [] => some []
  | 0, _ => none
  | fuel + 1, c :: rest => do
    let (step, rest) ← if c = '.' then name? rest else if c = '[' then index? rest else none
    return step :: (← steps? fuel rest)

/-- The path that a key stands for; a key that is no path stands for itself. -/
def ofKey (key : String) : List Step :=
  let cs := key.toList
  let path := do
    let (first, rest) ← name? cs
    return first :: (← steps? rest.length rest)
  path.getD [.key key]

end Path

namespace Value

def resolve (place : Int) (size : Nat) : Nat × Nat :=
  if 0 ≤ place then (place.toNat, 0)
  else if place.natAbs ≤ size then (size - place.natAbs, 0)
  else (0, place.natAbs - size)

/-- Changes the value at a path; where there is none, a missing value is changed. -/
def alter (change : Value → Value) : List Step → Value → Value
  | [], value => change value
  | .key name :: path, value =>
    let (origin, members) := value.asTable
    .table origin (Dict.put name (alter change path ((Dict.find name members).getD missing)) members)
  | .index place :: path, value =>
    let (origin, items) := value.asList
    let (i, front) := resolve place items.length
    let items := List.replicate front missing ++ items
    let items := items ++ List.replicate (i + 1 - items.length) missing
    .list origin (items.set i (alter change path (items.getD i missing)))

/-- Lays the entries of a source over a value, each at the path that its key stands for. -/
def withLayer (below : Value) (layer : List (String × Value)) : Value :=
  layer.foldl (fun acc entry ↦ alter (onto entry.2) (Path.ofKey entry.1) acc) below

end Value

end FrontDoor.Config
