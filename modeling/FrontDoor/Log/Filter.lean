import FrontDoor.Decimal.Reading
import FrontDoor.Log.Event
import FrontDoor.Text.Blank

namespace FrontDoor.Log

structure Directive where
  target : Option String := none
  span : Option String := none
  fields : List (String × Option String) := []
  verbosity : Nat := Level.trace.verbosity

inductive Flaw where
  | malformed
  | badLevel
deriving DecidableEq

def Flaw.text : Flaw → String
  | .malformed => "invalid filter directive"
  | .badLevel => "error parsing level filter: expected one of \"off\", \"error\", \"warn\", "
      ++ "\"info\", \"debug\", \"trace\", or a number 0-5"

def verbosity? (text : String) : Option Nat :=
  let cs := text.toList
  match Decimal.natural? (if cs.head? = some '+' then cs.tail else cs) with
  | some n => if n ≤ 5 then some n else none
  | none => ["off", "error", "warn", "info", "debug", "trace"].idxOf? text.toLower

namespace Directive

inductive Part where
  | start
  | word (first : Nat)
  | span (first : Nat)
  | field (first : Nat)
  | afterFields
  | afterSpan
  | level (first : Nat)

def opensTarget (c : Char) : Bool :=
  c.isAlphanum || c = '-' || c = ':' || c = '_' || (0x7f < c.toNat && !Text.isBlank c)

def between (cs : List Char) (first last : Nat) : String := String.ofList ((cs.take last).drop first)

def fieldOf (text : String) : Except Flaw (String × Option String) :=
  match text.splitOn "=" with
  | [""] => .error .malformed
  | name :: value :: _ => .ok (name, some value)
  | _ => .ok (text, none)

def step (cs : List Char) (draft : Directive × Part) (c : Char) (i : Nat) :
    Except Flaw (Directive × Part) :=
  let (d, part) := draft
  match part with
  | .start =>
    if c = '[' then .ok (d, .span (i + 1))
    else if opensTarget c then .ok (d, .word i)
    else .error .malformed
  | .word first =>
    if c = '=' then .ok ({ d with target := some (between cs first i) }, .level (i + 1))
    else if c = '[' then .ok ({ d with target := some (between cs first i) }, .span (i + 1))
    else .ok draft
  | .span first =>
    if c = ']' then .ok ({ d with span := some (between cs first i) }, .afterSpan)
    else if c = '\x7b' then
      let name := between cs first i
      .ok ({ d with span := if name = "" then none else some name }, .field (i + 1))
    else .ok draft
  | .field first =>
    if c = '\x7d' then
      (fieldOf (between cs first i)).map fun f ↦ ({ d with fields := d.fields ++ [f] }, .afterFields)
    else .ok draft
  | .afterFields => if c = ']' then .ok (d, .afterSpan) else .error .malformed
  | .afterSpan => if c = '=' then .ok (d, .level (i + 1)) else .error .malformed
  | .level _ => .ok draft

def finish (cs : List Char) (draft : Directive × Part) : Except Flaw Directive :=
  let (d, part) := draft
  match part with
  | .word first =>
    let word := between cs first cs.length
    match verbosity? word with
    | some verbosity => .ok { d with verbosity }
    | none => .ok { d with target := some word }
  | .level first =>
    let word := between cs first cs.length
    if word = "" then .ok d
    else
      match verbosity? word with
      | some verbosity => .ok { d with verbosity }
      | none => .error .badLevel
  | .afterSpan => .ok d
  | _ => .error .malformed

/-- Reads a directive. Places are counted without the blanks at the ends, but parts are cut from the
text with them, so that blanks in front make a level unreadable. -/
def parse (text : String) : Except Flaw Directive := do
  let cs := text.toList
  let draft ← (Text.strip cs).zipIdx.foldlM (fun draft (c, i) ↦ step cs draft c i) ({}, .start)
  finish cs draft

def isStatic (d : Directive) : Bool := d.span.isNone && d.fields.all fun f ↦ f.2.isNone

end Directive

/-- Lets events through up to a verbosity, if they have the target and the fields. -/
structure Rule where
  target : Option String
  fields : List String
  verbosity : Nat

namespace Rule

def covers (r : Rule) (e : Event) : Bool :=
  (match r.target with | some t => e.component.target.startsWith t | none => true)
    && r.fields.all fun f ↦ f = "message" || e.fields.any fun g ↦ g.1 = f

/-- How specific a rule is: by the length of its target, then by the number of its fields. -/
def specificity (a b : Rule) : Ordering :=
  let size (r : Rule) : Nat := match r.target with | some t => t.utf8ByteSize + 1 | none => 0
  (compare (size a) (size b)).then <|
    (compare a.fields.length b.fields.length).then <|
      (compare (a.target.getD "") (b.target.getD "")).then (List.compareLex compare a.fields b.fields)

/-- Puts a rule among others that stand in descending specificity; it takes the place of an equal
one. -/
def insert (r : Rule) : List Rule → List Rule
  | [] => [r]
  | s :: rest =>
    match specificity r s with
    | .gt => r :: s :: rest
    | .eq => r :: rest
    | .lt => s :: insert r rest

end Rule

structure Filter where
  rules : List Rule

namespace Filter

/-- The rules of directives; without any, events are let through up to the verbosity `default`. -/
def ofDirectives (default : Nat) (ds : List Directive) : Filter :=
  if ds.isEmpty then ⟨[⟨none, [], default⟩]⟩
  else
    let isPlain (d : Directive) : Bool := d.fields.isEmpty
    let static := ds.filter Directive.isStatic
    let ordered := static.filter isPlain ++ static.filter fun d ↦ !isPlain d
    ⟨ordered.foldl (fun rules d ↦ Rule.insert ⟨d.target, d.fields.map (·.1), d.verbosity⟩ rules) []⟩

def parts (text : String) : List String := (text.splitOn ",").filter (· ≠ "")

/-- Reads a filter in which every directive must be valid; one without directives lets nothing
through. -/
def parse (text : String) : Except Flaw Filter := do
  return ofDirectives 0 (← (parts text).mapM Directive.parse)

/-- Reads a filter without the directives that are refused, and says which ones they are. If none is
left, errors are let through. -/
def parseLossy (text : String) : Filter × List String :=
  let read := (parts text).map fun part ↦ (part, Directive.parse part)
  (ofDirectives Level.error.verbosity (read.filterMap fun r ↦ r.2.toOption),
    read.filterMap fun (part, d) ↦
      match d with
      | .ok _ => none
      | .error flaw => some ("ignoring `" ++ part ++ "`: " ++ flaw.text))

def passes (f : Filter) (e : Event) : Bool :=
  match f.rules.find? fun r ↦ r.covers e with
  | some r => e.level.verbosity ≤ r.verbosity
  | none => false

end Filter

end FrontDoor.Log
