import FrontDoor.Toml.Node
import FrontDoor.Toml.Text

namespace FrontDoor.Toml

namespace Reader

variable {α : Type}

def isBareChar (c : Char) : Bool := isKeyChar c || c = '+' || c = '.' || c = ':'

/-- A value without quotes or brackets; a date may be followed by a blank and a time of day. -/
def bare : Reader Toml := do
  let cs ← takeWhile isBareChar
  let joined ← match ← get with
    | ' ' :: c :: _ =>
      if Stamp.isDateShaped cs ∧ Decimal.isDigit c then
        let _ ← next
        pure (cs ++ ' ' :: (← takeWhile isBareChar))
      else pure cs
    | _ => pure cs
  bare? joined

/-- What stands between brackets: parts with commas between and, maybe, behind them, on any number
of lines. -/
def partsLoop (close : Char) (part : α → Reader α) : Nat → α → Reader α
  | 0, _ => failure
  | fuel + 1, acc => do
    skipLines (← fuelHere)
    if ← take? [close] then return acc
    let acc ← part acc
    skipLines (← fuelHere)
    if ← take? [','] then partsLoop close part fuel acc
    else
      expect close
      return acc

def parts (close : Char) (part : α → Reader α) (start : α) : Reader α := do
  partsLoop close part (← fuelHere) start

def keyValue (value : Reader Toml) (opening : Opening) (members : Members) : Reader Members := do
  let (path, key) ← keyPath
  expect '='
  skipBlanks
  let v ← value
  Members.setValue path key v opening members

def value (depth : Nat) : Reader Toml := do
  if ← take? ['"'] then return .text (← quoted '"')
  if ← take? ['\''] then return .text (← quoted '\'')
  match depth with
  | 0 => bare
  | depth + 1 =>
    if ← take? ['['] then
      let items ← parts ']' (fun items ↦ return (← value depth) :: items) []
      return .list items.reverse
    else if ← take? ['\x7b'] then
      let members ← parts '\x7d' (keyValue (value depth) .headed) []
      return .table (closeMembers members)
    else bare

def maxDepth : Nat := 80

/-- A document so far: the root table and the path of the table that is open. -/
structure Draft where
  root : Members
  path : List String

def header (draft : Draft) : Reader Draft := do
  let many ← take? ['[']
  skipBlanks
  let (path, key) ← keyPath
  expect ']'
  if many then expect ']'
  let root ← if many then Members.pushTable path key draft.root
      else Members.openTable path key draft.root
  return ⟨root, path ++ [key]⟩

def entry (draft : Draft) : Reader Draft := do
  let (path, key) ← keyPath
  expect '='
  skipBlanks
  let v ← value maxDepth
  let root ← Members.within false (Members.setValue path key v) draft.path .headed draft.root
  return { draft with root }

def documentLoop : Nat → Draft → Reader Draft
  | 0, _ => failure
  | fuel + 1, draft => do
    skipLines (← fuelHere)
    match ← peek with
    | none => return draft
    | some c =>
      let draft ← if c = '[' then do expect '['; header draft else entry draft
      lineEnd
      documentLoop fuel draft

end Reader

/-- The members of a document's root table. A mark of byte order in front is skipped. -/
def parse (text : String) : Option (List (String × Toml)) := do
  let cs := match text.toList with
    | '\ufeff' :: rest => rest
    | cs => cs
  let (draft, _) ← Reader.documentLoop (cs.length + 1) ⟨[], []⟩ cs
  return closeMembers draft.root

end FrontDoor.Toml
