import FrontDoor.Audit.Log
import FrontDoor.Http.Query
import FrontDoor.Http.Router
import FrontDoor.Json.Printer

namespace FrontDoor.Audit

open Http

variable {υ : Type}

def pluginId : String := "audit"

def recentPath : String := "/audit/recent"

/-- The status a payload tells; what does not fit a status counts as zero. -/
def statusOf (payload : Payload) : Nat :=
  match payload.int64? "status" with
  | some n => if 0 ≤ n ∧ n < 65536 then n.toNat else 0
  | none => 0

def recordOf (ctx : RequestContext) (payload : Payload) (timestamp : Time.Timestamp) :
    Except AppError Record :=
  match payload.text? "path", payload.text? "method" with
  | none, _ => .error ⟨.validation, "audit hook: 'path' missing from payload", []⟩
  | some _, none => .error ⟨.validation, "audit hook: 'method' missing from payload", []⟩
  | some path, some method =>
    .ok ⟨method, path, statusOf payload, (payload.uuid? "request_id").getD ctx.requestId, timestamp⟩

def recordHandler (append : Record → Effect υ Unit) : HookHandler υ := fun ctx payload ↦ do
  match recordOf ctx payload (← Effect.wallClock) with
  | .error e => return .error (.app e)
  | .ok record =>
    append record
    return .ok ()

def append (cell : Cell υ (Option Log)) (record : Record) : Effect υ Unit := do
  match ← cell.get with
  | some log => cell.set (some (log.push record))
  | none => return ()

/-- The newest records, as many as the query asks for or the whole log. -/
def recentService (cell : Cell υ (Option Log)) : Service υ := fun req ↦ do
  match Query.number? "limit" 0x10000000000000000 (Query.pairs (req.query.getD "")) none with
  | .error message => return .text 400 ("Failed to deserialize query string: " ++ message)
  | .ok limit =>
    match ← cell.get with
    | none => return .empty 404
    | some log =>
      let records := log.recent (limit.getD log.capacity)
      return .json 200 (Json.list (records.map Record.toJson)).write

def startPlugin (cell : Cell υ (Option Log)) (config : Config.AppConfig) :
    Effect υ (Except Fault Unit) := do
  match config.settings pluginId Settings.ofJson {} with
  | .error e => return .error (.app e)
  | .ok settings =>
    if settings.capacity = 0 then
      return .error (.app ⟨.configuration, "audit capacity must be at least 1", []⟩)
    let log ← match Log.new settings.capacity with
      | .ok log => pure log
      | .error abort => throw abort
    match ← cell.get with
    | some _ => return .error (.app ⟨.plugin, "Audit plugin is already initialized", []⟩)
    | none =>
      cell.set (some log)
      Effect.log .info .audit "Audit plugin initialized" [("capacity", .int settings.capacity)]
      return .ok ()

def plugin (cell : Cell υ (Option Log)) : Plugin (host υ) υ where
  id := pluginId
  start := startPlugin cell
  endpoints := do
    match ← cell.get with
    | none => return ∅
    | some _ => return (∅ : Dict (MethodTable υ)).insert recentPath (.get (recentService cell))
  hooks := do
    match ← cell.get with
    | none => return none
    | some _ => return some { after := [⟨.all, recordHandler (append cell)⟩] }
  outline := do
    match ← cell.get with
    | none => return "AuditPlugin \x7b log: OnceLock(<uninit>) \x7d"
    | some _ => return "AuditPlugin"

end FrontDoor.Audit
