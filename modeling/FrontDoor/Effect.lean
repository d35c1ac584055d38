import FrontDoor.Log.Event
import FrontDoor.Time.Timestamp
import FrontDoor.Uuid

namespace FrontDoor

/-- A token is known by its own number and those of the tokens it descends from. -/
structure Token where
  lineage : List Nat
deriving DecidableEq

structure World (υ : Type) where
  /-- Nanoseconds on the monotonic clock. -/
  clock : Nat
  tokens : Nat
  cancelled : List Nat
  identifiers : Nat
  events : List Log.Event
  store : υ

inductive Abort where
  | deadlineOverflow
  | capacityOverflow
deriving DecidableEq, Repr

def Abort.message : Abort → String
  | .deadlineOverflow => "overflow when adding duration to instant"
  | .capacityOverflow => "capacity overflow"

abbrev Effect (υ : Type) := ExceptT Abort (StateM (World υ))

namespace World

variable {υ : Type}

def start (store : υ) : World υ := ⟨3600 * 1000000000, 0, [], 0, [], store⟩

def isCancelled (w : World υ) (t : Token) : Bool := t.lineage.any (w.cancelled.contains ·)

def cancel (w : World υ) (t : Token) : World υ :=
  match t.lineage with
  | [] => w
  | own :: _ => { w with cancelled := own :: w.cancelled }

def epoch : Time.Timestamp := ⟨20000, 0, 0⟩

def wallClock (w : World υ) : Time.Timestamp := epoch.plus w.clock

def identifier (n : Nat) : Uuid :=
  let salt := [0xb, 0x7, 0x1, 0xe, 0x9, 0x4, 0xd, 0x2, 0x5, 0xf, 0x3, 0xa, 0x4, 0x8, 0xc, 0x6,
      0x9, 0x1, 0xe, 0x7]
  let serial := (List.range 12).map fun i ↦ n / Nat.pow 16 (11 - i)
  ⟨(salt ++ serial).map Text.lastHexDigit, by simp [salt, serial]⟩

end World

namespace Effect

variable {υ α : Type}

def now : Effect υ Nat := return (← get).clock

def advance (nanos : Nat) : Effect υ Unit := modify fun w ↦ { w with clock := w.clock + nanos }

def newToken : Effect υ Token := do
  let w ← get
  set { w with tokens := w.tokens + 1 }
  return ⟨[w.tokens]⟩

def childToken (parent : Token) : Effect υ Token := do
  let own ← newToken
  return ⟨own.lineage ++ parent.lineage⟩

def cancel (t : Token) : Effect υ Unit := modify (World.cancel · t)

def isCancelled (t : Token) : Effect υ Bool := return (← get).isCancelled t

def freshIdentifier : Effect υ Uuid := do
  let w ← get
  set { w with identifiers := w.identifiers + 1 }
  return World.identifier w.identifiers

def wallClock : Effect υ Time.Timestamp := return (← get).wallClock

def log (level : Log.Level) (component : Log.Component) (message : String)
    (fields : List (String × Json) := []) : Effect υ Unit :=
  modify fun w ↦ { w with events := ⟨level, component, message, fields⟩ :: w.events }

def cancelling (t : Token) (body : Effect υ α) : Effect υ α := fun w ↦
  let (result, w') := body w
  (result, w'.cancel t)

end Effect

/-- A cell of the store: what is written is what is read next, and only the last write counts. -/
structure Cell (υ α : Type) where
  read : υ → α
  write : α → υ → υ
  read_write : ∀ a s, read (write a s) = a
  write_write : ∀ a b s, write a (write b s) = write a s

namespace Cell

variable {υ α : Type}

def get (c : Cell υ α) : Effect υ α := return c.read (← getThe (World υ)).store

def set (c : Cell υ α) (a : α) : Effect υ Unit :=
  modify fun w ↦ { w with store := c.write a w.store }

end Cell

end FrontDoor
