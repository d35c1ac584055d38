import FrontDoor.Effect

namespace FrontDoor

structure RequestContext where
  requestId : Uuid
  token : Token
  deadline : Option Nat

namespace RequestContext

variable {υ : Type}

def new : Effect υ RequestContext := do
  let requestId ← Effect.freshIdentifier
  let token ← Effect.newToken
  return ⟨requestId, token, none⟩

def withRequestId (ctx : RequestContext) (requestId : Uuid) : RequestContext := { ctx with requestId }

def withToken (ctx : RequestContext) (token : Token) : RequestContext := { ctx with token }

def withDeadline (ctx : RequestContext) (deadline : Nat) : RequestContext :=
  { ctx with deadline := some deadline }

def lastSecond : Nat := 0x7fffffffffffffff

/-- Sets the deadline relative to now; an instant that the clock cannot name is an abort. -/
def withTimeout (ctx : RequestContext) (nanos : Nat) : Effect υ RequestContext := do
  let deadline := (← Effect.now) + nanos
  if lastSecond < deadline / 1000000000 then throw .deadlineOverflow
  return ctx.withDeadline deadline

def remainingAt (ctx : RequestContext) (clock : Nat) : Option Nat := ctx.deadline.map (· - clock)

def isExpiredAt (ctx : RequestContext) (clock : Nat) : Bool := ctx.remainingAt clock == some 0

def remaining (ctx : RequestContext) : Effect υ (Option Nat) := return ctx.remainingAt (← Effect.now)

def isExpired (ctx : RequestContext) : Effect υ Bool := return ctx.isExpiredAt (← Effect.now)

def isCancelled (ctx : RequestContext) : Effect υ Bool := Effect.isCancelled ctx.token

end RequestContext

end FrontDoor
