namespace FrontDoor.Json

/-- What is left to read, and where it starts. -/
structure Cursor where
  rest : List Char
  line : Nat
  column : Nat

inductive Reason where
  | endOfList
  | endOfObject
  | endOfString
  | endOfValue
  | expectedColon
  | expectedCommaOrBracket
  | expectedCommaOrBrace
  | expectedIdentifier
  | expectedValue
  | invalidEscape
  | invalidNumber
  | numberOutOfRange
  | controlCharacter
  | keyNotString
  | loneSurrogate
  | trailingComma
  | trailingCharacters
  | cutSurrogatePair
  | tooDeep
  | unsuitable (message : String)

def Reason.text : Reason → String
  | .endOfList => "EOF while parsing a list"
  | .endOfObject => "EOF while parsing an object"
  | .endOfString => "EOF while parsing a string"
  | .endOfValue => "EOF while parsing a value"
  | .expectedColon => "expected `:`"
  | .expectedCommaOrBracket => "expected `,` or `]`"
  | .expectedCommaOrBrace => "expected `,` or `\x7d`"
  | .expectedIdentifier => "expected ident"
  | .expectedValue => "expected value"
  | .invalidEscape => "invalid escape"
  | .invalidNumber => "invalid number"
  | .numberOutOfRange => "number out of range"
  | .controlCharacter => "control character (\\u0000-\\u001F) found while parsing a string"
  | .keyNotString => "key must be a string"
  | .loneSurrogate => "lone leading surrogate in hex escape"
  | .trailingComma => "trailing comma"
  | .trailingCharacters => "trailing characters"
  | .cutSurrogatePair => "unexpected end of hex escape"
  | .tooDeep => "recursion limit exceeded"
  | .unsuitable message => message

structure Problem where
  reason : Reason
  place : Option (Nat × Nat)

def Problem.text (p : Problem) : String :=
  match p.place with
  | none => p.reason.text
  | some (line, column) =>
    p.reason.text ++ " at line " ++ toString line ++ " column " ++ toString column

abbrev Reader := EStateM Problem Cursor

namespace Cursor

def start (text : String) : Cursor := ⟨text.toList, 1, 0⟩

def past (cur : Cursor) (c : Char) (rest : List Char) : Cursor :=
  if c = '\n' then ⟨rest, cur.line + 1, 0⟩ else ⟨rest, cur.line, cur.column + c.utf8Size⟩

def skip (p : Char → Bool) (cur : Cursor) : Cursor :=
  let rec go : List Char → Cursor → Cursor
    | [], cur => cur
    | c :: rest, cur => if p c then go rest (cur.past c rest) else cur
  go cur.rest cur

def peekPlace (cur : Cursor) : Nat × Nat :=
  match cur.rest with
  | [] => (cur.line, cur.column)
  | c :: _ => if c = '\n' then (cur.line + 1, 0) else (cur.line, cur.column + 1)

end Cursor

namespace Reader

variable {α : Type}

def peek : Reader (Option Char) := return (← get).rest.head?

def bump : Reader Unit := modify fun cur ↦
  match cur.rest with
  | [] => cur
  | c :: rest => cur.past c rest

def next : Reader (Option Char) := do
  let c ← peek
  bump
  return c

def failHere (reason : Reason) : Reader α := do
  let cur ← get
  throw ⟨reason, some (cur.line, cur.column)⟩

def failAhead (reason : Reason) : Reader α := do
  throw ⟨reason, some (← get).peekPlace⟩

def unsuitable (message : String) : Reader α := throw ⟨.unsuitable message, none⟩

def placed (body : Reader α) : Reader α := fun cur ↦
  match body cur with
  | .error ⟨reason, none⟩ cur' => .error ⟨reason, some (cur'.line, cur'.column)⟩ cur'
  | result => result

def closedBy (close : Reader Unit) (body : Reader α) : Reader α := fun cur ↦
  match body cur with
  | .ok a cur' =>
    match close cur' with
    | .ok _ cur'' => .ok a cur''
    | .error e cur'' => .error e cur''
  | .error e cur' =>
    match close cur' with
    | .ok _ cur'' => .error e cur''
    | .error _ cur'' => .error e cur''

def peekToken : Reader (Option Char) := do
  modify (Cursor.skip fun c ↦ c = ' ' || c = '\n' || c = '\t' || c = '\r')
  peek

def takeWhile (p : Char → Bool) : Reader (List Char) := do
  let taken := (← get).rest.takeWhile p
  modify (Cursor.skip p)
  return taken

end Reader

end FrontDoor.Json
