import FrontDoor.Decimal.Reading
import FrontDoor.Text.Hex
import FrontDoor.Text.Quoted
import FrontDoor.Text.Split

namespace FrontDoor.Net

inductive IpAddress where
  | v4 (bytes : List Nat)
  | v6 (groups : List Nat)
deriving DecidableEq, Repr

structure SocketAddress where
  ip : IpAddress
  port : Nat
deriving DecidableEq, Repr

def bounded? (bound : Nat) (cs : List Char) : Option Nat := do
  let n ← Decimal.natural? cs
  if n < bound ∧ (cs.length = 1 ∨ cs.head? ≠ some '0') then return n else none

def v4? (cs : List Char) : Option (List Nat) := do
  let parts := Text.split '.' cs
  if parts.length ≠ 4 then none
  parts.mapM (bounded? 256)

def group? (cs : List Char) : Option Nat := do
  if cs.isEmpty ∨ 4 < cs.length then none
  Text.hexNumber? cs

/-- Groups between colons, the last two of which may stand as a version four address. -/
def groups? (cs : List Char) : Option (List Nat) :=
  if cs.isEmpty then some []
  else
    let parts := Text.split ':' cs
    match parts.reverse with
    | [] => some []
    | last :: front =>
      match v4? last with
      | some [a, b, c, d] => do
        let gs ← front.reverse.mapM group?
        return gs ++ [a * 256 + b, c * 256 + d]
      | _ => parts.mapM group?

def gap? (cs : List Char) : Option Nat :=
  (List.range cs.length).find? fun i ↦ cs[i]? = some ':' ∧ cs[i + 1]? = some ':'

def v6? (cs : List Char) : Option (List Nat) :=
  match gap? cs with
  | none => (groups? cs).bind fun gs ↦ if gs.length = 8 then some gs else none
  | some i => do
    let front ← groups? (cs.take i)
    let back ← groups? (cs.drop (i + 2))
    if (cs.take i).contains '.' then none
    if front.length + back.length < 8 then
      return front ++ List.replicate (8 - front.length - back.length) 0 ++ back
    else none

def IpAddress.parse? (s : String) : Option IpAddress :=
  (v4? s.toList).map .v4 <|> (v6? s.toList).map .v6

def port? (cs : List Char) : Option Nat := do
  let n ← Decimal.natural? cs
  if n < 65536 then return n else none

def unbracketed? (cs : List Char) : Option (List Char × List Char) :=
  match cs with
  | '[' :: rest =>
    match rest.dropWhile (· ≠ ']') with
    | ']' :: after => some ((rest.takeWhile (· ≠ ']')).takeWhile (· ≠ '%'), after)
    | _ => none
  | _ => none

def SocketAddress.parse? (s : String) : Option SocketAddress :=
  match unbracketed? s.toList with
  | some (inner, ':' :: port) => do return ⟨.v6 (← v6? inner), ← port? port⟩
  | some _ => none
  | none =>
    match Text.split ':' s.toList with
    | [host, port] => do return ⟨.v4 (← v4? host), ← port? port⟩
    | _ => none

/-- The longest run of zero groups, the first of equals: where it starts and how long it is. -/
def zeroRun (gs : List Nat) : Nat × Nat :=
  (List.range gs.length).foldl (fun best i ↦
    let size := ((gs.drop i).takeWhile (· = 0)).length
    if best.2 < size then (i, size) else best) (0, 0)

def groupsText (gs : List Nat) : String := ":".intercalate (gs.map (Text.digitsIn 16))

def v4Text (bytes : List Nat) : String := ".".intercalate (bytes.map toString)

instance : ToString IpAddress := ⟨fun
  | .v4 bytes => v4Text bytes
  | .v6 gs =>
    match gs with
    | [0, 0, 0, 0, 0, 0xffff, a, b] => "::ffff:" ++ v4Text [a / 256, a % 256, b / 256, b % 256]
    | _ =>
      let (start, size) := zeroRun gs
      if size < 2 then groupsText gs
      else groupsText (gs.take start) ++ "::" ++ groupsText (gs.drop (start + size))⟩

end FrontDoor.Net
