import FrontDoor.Toml.Basic

namespace FrontDoor.Toml

abbrev Reader := StateT (List Char) Option

namespace Reader

variable {α : Type}

def peek : Reader (Option Char) := return (← get).head?

def next : Reader (Option Char) := do
  let c ← peek
  modify (·.drop 1)
  return c

def take? (cs : List Char) : Reader Bool := do
  if cs.isPrefixOf (← get) then
    modify (·.drop cs.length)
    return true
  else return false

def expect (c : Char) : Reader Unit := do guard (← take? [c])

def takeWhile (p : Char → Bool) : Reader (List Char) := do
  let taken := (← get).takeWhile p
  modify (·.drop taken.length)
  return taken

def fuelHere : Reader Nat := return (← get).length + 1

def isBlank (c : Char) : Bool := c = ' ' || c = '\t'

/-- A character that may stand in a comment or in a text of one line. -/
def isTextChar (c : Char) : Bool := c = '\t' || ' ' ≤ c && c ≠ '\x7f'

def skipBlanks : Reader Unit := do let _ ← takeWhile isBlank

def newline : Reader Bool := do
  if ← take? ['\n'] then return true
  take? ['\r', '\n']

def skipComment : Reader Unit := do
  if ← take? ['#'] then let _ ← takeWhile isTextChar

def lineEnd : Reader Unit := do
  skipBlanks
  skipComment
  if !(← newline) then guard (← peek).isNone

def skipLines : Nat → Reader Unit
  | 0 => failure
  | fuel + 1 => do
    skipBlanks
    skipComment
    if ← newline then skipLines fuel

def codePoint (width : Nat) : Reader Char := do
  let digits := (← get).take width
  guard (digits.length = width)
  modify (·.drop width)
  let n ← Text.hexNumber? digits
  guard n.isValidChar
  return Char.ofNat n

def escape : Reader Char := do
  match ← next with
  | some 'b' => return '\x08'
  | some 't' => return '\t'
  | some 'n' => return '\n'
  | some 'f' => return '\x0c'
  | some 'r' => return '\r'
  | some 'e' => return '\x1b'
  | some '"' => return '"'
  | some '\\' => return '\\'
  | some 'x' => codePoint 2
  | some 'u' => codePoint 4
  | some 'U' => codePoint 8
  | _ => failure

def basicLoop : Nat → List Char → Reader String
  | 0, _ => failure
  | fuel + 1, read => do
    match ← next with
    | some '"' => return String.ofList read.reverse
    | some '\\' => basicLoop fuel ((← escape) :: read)
    | some c =>
      guard (isTextChar c)
      basicLoop fuel (c :: read)
    | none => failure

def literal : Reader String := do
  let cs ← takeWhile fun c ↦ isTextChar c && c ≠ '\''
  expect '\''
  return String.ofList cs

/-- The quotes before the closing ones, if a run of quotes closes a text of many lines. -/
def closing (quote : Char) : Reader (List Char × Bool) := do
  let quotes ← takeWhile (· = quote)
  guard (quotes.length ≤ 5)
  return if 3 ≤ quotes.length then (quotes.drop 3, true) else (quotes, false)

def skipBlankLines : Nat → Reader Unit
  | 0 => failure
  | fuel + 1 => do
    skipBlanks
    if ← newline then skipBlankLines fuel

/-- Whether a backslash ends the line, so that it is joined to the next text; the blanks between are
read. -/
def joinsLines : Reader Bool := do
  let before ← get
  skipBlanks
  if ← newline then
    skipBlankLines (← fuelHere)
    return true
  else
    set before
    return false

/-- Text of many lines behind its opening quotes; `escapes` tells whether backslashes are special. -/
def linesLoop (quote : Char) (escapes : Bool) : Nat → List Char → Reader String
  | 0, _ => failure
  | fuel + 1, read => do
    if (← peek) = some quote then
      let (quotes, closed) ← closing quote
      let read := quotes ++ read
      if closed then return String.ofList read.reverse
      else linesLoop quote escapes fuel read
    else if ← take? ['\r', '\n'] then linesLoop quote escapes fuel ('\n' :: '\r' :: read)
    else
      match ← next with
      | none => failure
      | some c =>
        if c = '\\' ∧ escapes then
          if ← joinsLines then linesLoop quote escapes fuel read
          else linesLoop quote escapes fuel ((← escape) :: read)
        else
          guard (isTextChar c ∨ c = '\n')
          linesLoop quote escapes fuel (c :: read)

def line (quote : Char) : Reader String := do
  if quote = '"' then basicLoop (← fuelHere) [] else literal

/-- Text in quotes behind its first quote; three quotes open a text of many lines, whose first end
of line is dropped. -/
def quoted (quote : Char) : Reader String := do
  if ← take? [quote, quote] then
    let _ ← newline
    linesLoop quote (quote = '"') (← fuelHere) []
  else line quote

def isKeyChar (c : Char) : Bool :=
  Decimal.isDigit c || 'a' ≤ c && c ≤ 'z' || 'A' ≤ c && c ≤ 'Z' || c = '_' || c = '-'

def simpleKey : Reader String := do
  if ← take? ['"'] then line '"'
  else if ← take? ['\''] then line '\''
  else
    let cs ← takeWhile isKeyChar
    guard !cs.isEmpty
    return String.ofList cs

def pathLoop : Nat → List String → Reader (List String × String)
  | 0, _ => failure
  | fuel + 1, path => do
    let key ← simpleKey
    skipBlanks
    if ← take? ['.'] then
      skipBlanks
      pathLoop fuel (key :: path)
    else return (path.reverse, key)

def keyPath : Reader (List String × String) := do pathLoop (← fuelHere) []

end Reader

end FrontDoor.Toml
