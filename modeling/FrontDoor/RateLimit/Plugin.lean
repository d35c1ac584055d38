import FrontDoor.Http.ErrorBody
import FrontDoor.Http.Router
import FrontDoor.RateLimit.Settings
import FrontDoor.Text.Blank

namespace FrontDoor.RateLimit

open Http

variable {υ : Type}

def pluginId : String := "rate-limit"

def statusPath : String := "/rate-limit/status"

def forwardedFor : String := "x-forwarded-for"

structure Active where
  settings : Settings
  buckets : Buckets Float

def activate (cell : Cell υ (Option Active))
    (settings : Settings) : Effect υ (Except AppError Unit) := do
  match settings.validate with
  | .error e => return .error ⟨.configuration, "Invalid rate limit settings: " ++ e.text, [e.text]⟩
  | .ok _ =>
    match ← cell.get with
    | some _ => return .error ⟨.plugin, "Rate limit plugin is already initialized", []⟩
    | none =>
      cell.set (some ⟨settings, .empty⟩)
      return .ok ()

/-- The client a request is charged to: the first forwarded address, else the peer's. -/
def clientKey (req : Request) : String :=
  let forwarded := (req.header? forwardedFor).bind fun value ↦
    let first := Text.strip (value.toList.takeWhile (· ≠ ','))
    if first.isEmpty then none else some (String.ofList first)
  match forwarded, req.peer with
  | some key, _ => key
  | none, some peer => toString peer.ip
  | none, none => "unknown"

def check (cell : Cell υ (Option Active)) (key : String) : Effect υ Bool := do
  match ← cell.get with
  | none => return true
  | some active =>
    let (admitted, buckets) := active.buckets.check active.settings.limits (← Effect.now) key
    cell.set (some { active with buckets })
    return admitted

def status (cell : Cell υ (Option Active))
    (key : String) : Effect υ (Option (BucketStatus Float)) := do
  match ← cell.get with
  | none => return none
  | some active =>
    let (report, buckets) := active.buckets.status active.settings.limits (← Effect.now) key
    cell.set (some { active with buckets })
    return some report

/-- The answer to a client whose bucket is empty. -/
def rejection (limits : Limits Float) : Response :=
  let response := errorResponse ⟨.rateLimit, "Too many requests", []⟩
  match limits.retryAfterSeconds? with
  | some seconds => response.setHeader "retry-after" (toString seconds)
  | none => response

def enforce (cell : Cell υ (Option Active)) (limits : Limits Float) : Layer υ := fun next req ↦ do
  if ← check cell (clientKey req) then next req else return rejection limits

def statusService (cell : Cell υ (Option Active)) : Service υ := fun req ↦ do
  match ← status cell (clientKey req) with
  | some report => return .json 200 report.toJson.write
  | none => return .empty 404

def startPlugin (cell : Cell υ (Option Active)) (config : Config.AppConfig) :
    Effect υ (Except Fault Unit) := do
  match config.settings pluginId Settings.ofJson {} with
  | .error e => return .error (.app e)
  | .ok settings =>
    match ← activate cell settings with
    | .error e => return .error (.app e)
    | .ok _ =>
      Effect.log .info .rateLimit "Rate limit plugin initialized"
        [("max_tokens", .int settings.maxTokens),
          ("refill_per_second", .ofFloat settings.refillPerSecond),
          ("scope", .text settings.scope), ("priority", .int settings.priority)]
      return .ok ()

def plugin (cell : Cell υ (Option Active)) : Plugin (host υ) υ where
  id := pluginId
  start := startPlugin cell
  endpoints := do
    match ← cell.get with
    | none => return ∅
    | some _ => return (∅ : Dict (MethodTable υ)).insert statusPath (.get (statusService cell))
  middleware := do
    match ← cell.get with
    | none => return []
    | some active =>
      let layer := enforce cell active.settings.limits
      return [⟨active.settings.scope, active.settings.priority, fun (r : Router υ) ↦ r.layer layer⟩]
  outline := do
    match ← cell.get with
    | none => return "RateLimitPlugin \x7b active: OnceLock(<uninit>) \x7d"
    | some _ => return "RateLimitPlugin"

end FrontDoor.RateLimit
