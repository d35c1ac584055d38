import FrontDoor.HookRegistry
import FrontDoor.Http.ErrorBody

namespace FrontDoor.Http

variable {υ : Type}

def requestIdHeader : String := "x-request-id"

def requestId? (req : Request) : Option Uuid := (req.header? requestIdHeader).bind Uuid.parse?

/-- The context of a request with this token; a timeout of zero sets no deadline. -/
def contextFor (req : Request) (token : Token) (timeoutSeconds : Nat) : Effect υ RequestContext := do
  let ctx := (← RequestContext.new).withToken token
  let ctx := match requestId? req with
    | some id => ctx.withRequestId id
    | none => ctx
  if timeoutSeconds = 0 then return ctx else ctx.withTimeout (timeoutSeconds * 1000000000)

def hookEntries (ctx : RequestContext) (req : Request) : List (String × Json) :=
  [("path", .text req.path), ("method", .text req.method),
    ("request_id", .text (toString ctx.requestId))]

def rejectionMessage : Phase → String
  | .before => "Before hook rejected request"
  | .after => "After hook failed"

def runPhase (registry : HookRegistry υ) (phase : Phase) (ctx : RequestContext) (req : Request)
    (entries : List (String × Json)) : Effect υ (Option Response) := do
  if !registry.hasHooks phase then return none
  let payload ← Payload.ofEntries entries
  match ← registry.execute phase ctx req.path req.method payload with
  | .ok _ => return none
  | .error e =>
    Effect.log .warn .hookLayer (rejectionMessage phase)
      [("path", .text req.path), ("method", .text req.method), ("error", .text e.text)]
    return some (← respondWith e.toAppError)

def runAround (registry : HookRegistry υ) (ctx : RequestContext) (next : Service υ) (req : Request) :
    Effect υ Response := do
  let entries := hookEntries ctx req
  if let some rejection ← runPhase registry .before ctx req entries then return rejection
  let response ← next { req with context := some ctx }
  let entries := entries ++ [("status", .int response.status)]
  if let some rejection ← runPhase registry .after ctx req entries then return rejection
  return response

/-- The hook layer. Without any hook a request passes untouched. -/
def hookLayer (registry : HookRegistry υ) (timeoutSeconds : Nat) : Layer υ := fun next req ↦ do
  if !registry.hasHooks .before && !registry.hasHooks .after then next req
  else
    let token ← Effect.newToken
    Effect.cancelling token do
      runAround registry (← contextFor req token timeoutSeconds) next req

end FrontDoor.Http
