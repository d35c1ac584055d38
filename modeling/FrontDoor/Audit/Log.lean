import FrontDoor.Audit.Record
import FrontDoor.Effect

namespace FrontDoor.Audit

structure Log where
  entries : List Record
  capacity : Nat

namespace Log

def recordBytes : Nat := 80

def maxBytes : Nat := 0x7fffffffffffffff

/-- An empty log of at least one record; its memory is reserved at once. -/
def new (capacity : Nat) : Except Abort Log :=
  let capacity := max capacity 1
  if maxBytes < capacity * recordBytes then .error .capacityOverflow else .ok ⟨[], capacity⟩

def push (log : Log) (record : Record) : Log :=
  if log.entries.length = log.capacity then { log with entries := log.entries.tail ++ [record] }
  else { log with entries := log.entries ++ [record] }

def recent (log : Log) (limit : Nat) : List Record := log.entries.reverse.take limit

def size (log : Log) : Nat := log.entries.length

def isEmpty (log : Log) : Bool := log.entries.isEmpty

end Log

end FrontDoor.Audit
