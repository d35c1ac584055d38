import FrontDoor.Audit.Plugin
import FrontDoor.Config.Load
import FrontDoor.Http.Assembly
import FrontDoor.Log.Filter
import FrontDoor.RateLimit.Plugin

namespace FrontDoor.Server

def version : String := "0.1.0"

structure Memory where
  limiter : Option RateLimit.Active := none
  audit : Option Audit.Log := none

def limiterCell : Cell Memory (Option RateLimit.Active) where
  read m := m.limiter
  write a m := { m with limiter := a }
  read_write _ _ := rfl
  write_write _ _ _ := rfl

def auditCell : Cell Memory (Option Audit.Log) where
  read m := m.audit
  write a m := { m with audit := a }
  read_write _ _ := rfl
  write_write _ _ _ := rfl

def builtIn : PluginList (Http.host Memory) Memory :=
  [RateLimit.plugin limiterCell, Audit.plugin auditCell]

abbrev Run := Effect Memory

def say (message : String) (fields : List (String × Json) := []) : Run Unit :=
  Effect.log .info .server message fields

def selected (config : Config.AppConfig) : Run (PluginList (Http.host Memory) Memory) :=
  builtIn.filterM fun p ↦ do
    let disabled := config.plugins.isDisabled p.id
    if disabled then say "Plugin disabled by configuration" [("plugin_id", .text p.id)]
    return !disabled

def prepare (config : Config.AppConfig) : Run (Except AppError (Http.Router Memory)) := do
  say ("Starting Gatehouse v" ++ version)
  let plugins ← selected config
  match if config.plugins.enforceUniqueIds then Manager.ofDistinctPlugins plugins
    else .ok (.ofPlugins plugins) with
  | .error e => return .error e.toAppError
  | .ok manager =>
    match ← manager.start config with
    | (_, .error e) => return .error e.toAppError
    | (manager, .ok _) =>
      manager.table.entries.forM fun (path, e) ↦
        say "Endpoint mounted"
          [("path", .text path),
            ("plugin_id", .text (Text.Outline.option (some (Text.quoted e.owner))))]
      return .ok (← Http.assemble manager config.server)

/-- Whether the host of an address names an interface: an address of either version, with or without
brackets, or the local host. -/
def isHost (host : String) : Bool :=
  let inner := match host.toList with
    | '[' :: rest => if rest.getLast? = some ']' then String.ofList rest.dropLast else host
    | _ => host
  host = "localhost" || (Net.IpAddress.parse? inner).isSome

def listen (config : Config.ServerConfig) : Run (Except AppError Unit) := do
  if isHost config.host then
    say ("Gatehouse listening on " ++ config.bindAddress)
    return .ok ()
  else
    return .error ⟨.internal, "Failed to bind " ++ config.bindAddress
      ++ ": failed to lookup address information: Name or service not known", []⟩

def start (config : Config.AppConfig) : Run (Except AppError (Http.Router Memory)) := do
  match ← prepare config with
  | .error e => return .error e
  | .ok router => return (← listen config.server).map fun _ ↦ router

def stop : Run Unit := do
  say "Shutdown signal received, starting graceful shutdown..."
  say "Gatehouse shut down gracefully"

def startReporting (config : Config.AppConfig) : Run (Except AppError (Http.Router Memory)) := do
  let result ← start config
  if let .error e := result then Effect.log .error .server ("Server error: " ++ e.text)
  return result

def startAndStop (config : Config.AppConfig) : Run (Except AppError Unit) := do
  match ← startReporting config with
  | .error e => return .error e
  | .ok _ => return .ok (← stop)

/-- What is written of the log: which events, and in which form. -/
structure LogOutput where
  filter : Log.Filter
  json : Bool
  complaints : List String := []

def filterVariable : String := "RUST_LOG"

def environmentVariable : String := "GATEHOUSE_ENV"

/-- The filter of the variable for it if that is a valid one, else the configured one. -/
def LogOutput.ofConfig (vars : List (String × String)) (config : Config.LoggingConfig) : LogOutput :=
  let json := config.format = "json"
  match (vars.lookup filterVariable).map Log.Filter.parse with
  | some (.ok filter) => ⟨filter, json, []⟩
  | _ =>
    let (filter, complaints) := Log.Filter.parseLossy config.level
    ⟨filter, json, complaints⟩

def LogOutput.written (o : LogOutput) (w : World Memory) : List Log.Event :=
  w.events.reverse.filter o.filter.passes

def environment (vars : List (String × String)) : String :=
  (vars.lookup environmentVariable).getD "development"

def configure (files : String → Option String) (vars : List (String × String)) :
    Except AppError Config.AppConfig :=
  Config.AppConfig.load (environment vars) files vars

def configFiles (vars : List (String × String)) : List String :=
  (Config.layerNames (environment vars)).flatMap fun name ↦
    let path := Config.tidyPath name
    path :: Config.Format.all.map fun format ↦ path ++ "." ++ format.ending

/-- What is seen of a server that is started, and stopped as soon as it listens. -/
structure Report where
  exitCode : Nat
  json : Bool := true
  events : List Log.Event := []
  complaints : List String := []

def report (files : String → Option String) (vars : List (String × String)) : Report :=
  match configure files vars with
  | .error e => { exitCode := 1, complaints := ["Failed to load configuration: " ++ e.text] }
  | .ok config =>
    let output := LogOutput.ofConfig vars config.logging
    let (result, w) := (startAndStop config).run (World.start {})
    let events := output.written w
    match result with
    | .ok (.ok _) => ⟨0, output.json, events, output.complaints⟩
    | .ok (.error _) => ⟨1, output.json, events, output.complaints⟩
    | .error abort => ⟨101, output.json, events, output.complaints ++ [abort.message]⟩

end FrontDoor.Server
