import FrontDoor.Dict
import FrontDoor.RateLimit.Amount

namespace FrontDoor.RateLimit

variable {α : Type} [Amount α]

structure Limits (α : Type) where
  maxTokens : Nat
  rate : α
  pruneEvery : Nat

structure Bucket (α : Type) where
  tokens : α
  refilled : Nat

structure Buckets (α : Type) where
  byClient : Dict (Bucket α) := ∅
  createdSincePrune : Nat := 0

structure BucketStatus (α : Type) where
  key : String
  remaining : Nat
  maxTokens : Nat
  refillPerSecond : α

namespace Limits

def withPruneEvery (l : Limits α) (pruneEvery : Nat) : Limits α :=
  { l with pruneEvery := max pruneEvery 1 }

def cap (l : Limits α) : α := Amount.ofNat l.maxTokens

def retryAfterSeconds? (l : Limits α) : Option Nat :=
  if Amount.lt (Amount.ofNat 0) l.rate then some (Amount.secondsPerToken l.rate) else none

end Limits

namespace Bucket

def full (l : Limits α) (now : Nat) : Bucket α := ⟨l.cap, now⟩

/-- Adds what was restored since the last refill, up to the cap. -/
def refill (b : Bucket α) (l : Limits α) (now : Nat) : Bucket α :=
  ⟨Amount.capped (Amount.add b.tokens (Amount.mul (Amount.seconds (now - b.refilled)) l.rate))
    l.cap, now⟩

def take (b : Bucket α) : Bool × Bucket α :=
  if Amount.le (Amount.ofNat 1) b.tokens then
    (true, { b with tokens := Amount.sub b.tokens (Amount.ofNat 1) })
  else (false, b)

end Bucket

def refillAll (l : Limits α) (now : Nat) (d : Dict (Bucket α)) : Dict (Bucket α) :=
  d.mapValues fun _ b ↦ b.refill l now

def notFull (l : Limits α) (d : Dict (Bucket α)) : Dict (Bucket α) :=
  ⟨d.entries.filter fun e ↦ Amount.lt e.2.tokens l.cap, d.ascending.filter _⟩

def sweep (l : Limits α) (now : Nat) (d : Dict (Bucket α)) : Dict (Bucket α) :=
  notFull l (refillAll l now d)

namespace Buckets

def empty : Buckets α := {}

def tracked (bs : Buckets α) : Nat := bs.byClient.size

/-- Makes room for a new client: sweeps when enough buckets were made since the last sweep. -/
def prepare (bs : Buckets α) (l : Limits α) (now : Nat) (key : String) : Buckets α :=
  if bs.byClient.contains key then bs
  else if l.pruneEvery ≤ bs.createdSincePrune then ⟨sweep l now bs.byClient, 1⟩
  else { bs with createdSincePrune := bs.createdSincePrune + 1 }

def check (bs : Buckets α) (l : Limits α) (now : Nat) (key : String) : Bool × Buckets α :=
  let bs := bs.prepare l now key
  let bucket := ((bs.byClient.get? key).getD (Bucket.full l now)).refill l now
  let (admitted, bucket) := bucket.take
  (admitted, { bs with byClient := bs.byClient.insert key bucket })

def status (bs : Buckets α) (l : Limits α) (now : Nat) (key : String) : BucketStatus α × Buckets α :=
  match bs.byClient.get? key with
  | some bucket =>
    let bucket := bucket.refill l now
    (⟨key, Amount.floor bucket.tokens, l.maxTokens, l.rate⟩,
      { bs with byClient := bs.byClient.insert key bucket })
  | none => (⟨key, l.maxTokens, l.maxTokens, l.rate⟩, bs)

def prune (bs : Buckets α) (l : Limits α) (now : Nat) : Nat × Buckets α :=
  let kept := sweep l now bs.byClient
  (bs.byClient.size - kept.size, ⟨kept, 0⟩)

end Buckets

end FrontDoor.RateLimit
