import FrontDoor.Json.Decode
import FrontDoor.Error.Basic

namespace FrontDoor.Config

structure ServerConfig where
  host : String := "0.0.0.0"
  port : Nat := 8080
  requestTimeoutSeconds : Nat := 30
  shutdownGraceSeconds : Nat := 10

def ServerConfig.bindAddress (c : ServerConfig) : String := c.host ++ ":" ++ toString c.port

structure PluginConfig where
  disabled : List String := []
  enforceUniqueIds : Bool := false
  settings : Dict Json := ∅

namespace PluginConfig

def isDisabled (c : PluginConfig) (pluginId : String) : Bool := c.disabled.contains pluginId

def settingsFor? (c : PluginConfig) (pluginId : String) : Option Json := c.settings.get? pluginId

end PluginConfig

structure LoggingConfig where
  level : String := "info"
  format : String := "json"

structure AppConfig where
  server : ServerConfig := {}
  plugins : PluginConfig := {}
  logging : LoggingConfig := {}

/-- How values of a source are read; `ν` are the values and `ε` the complaints. -/
structure Reading (ν ε : Type) where
  text : ν → Except ε String
  bool : ν → Except ε Bool
  natural : Nat → ν → Except ε Nat
  texts : ν → Except ε (List String)
  dict : ν → Except ε (Dict Json)
  record : {α : Type} → String → List String → ν → ((String → Option (String × ν)) → Except ε α) →
    Except ε α
  locate : String → ε → ε

variable {ν ε α : Type}

def Reading.field (r : Reading ν ε) (get : String → Option (String × ν)) (name : String)
    (read : ν → Except ε α) (default : α) : Except ε α :=
  match get name with
  | some (place, value) => (read value).mapError (r.locate place)
  | none => .ok default

def ServerConfig.read (r : Reading ν ε) (value : ν) : Except ε ServerConfig :=
  let default : ServerConfig := {}
  r.record "ServerConfig" ["host", "port", "request_timeout_seconds", "shutdown_grace_seconds"] value
    fun get ↦ do
    return {
      host := ← r.field get "host" r.text default.host
      port := ← r.field get "port" (r.natural 16) default.port
      requestTimeoutSeconds :=
        ← r.field get "request_timeout_seconds" (r.natural 64) default.requestTimeoutSeconds
      shutdownGraceSeconds :=
        ← r.field get "shutdown_grace_seconds" (r.natural 64) default.shutdownGraceSeconds }

def PluginConfig.read (r : Reading ν ε) (value : ν) : Except ε PluginConfig :=
  r.record "PluginConfig" ["disabled", "enforce_unique_ids", "settings"] value fun get ↦ do
    return {
      disabled := ← r.field get "disabled" r.texts []
      enforceUniqueIds := ← r.field get "enforce_unique_ids" r.bool false
      settings := ← r.field get "settings" r.dict ∅ }

def LoggingConfig.read (r : Reading ν ε) (value : ν) : Except ε LoggingConfig :=
  let default : LoggingConfig := {}
  r.record "LoggingConfig" ["level", "format"] value fun get ↦ do
    return {
      level := ← r.field get "level" r.text default.level
      format := ← r.field get "format" r.text default.format }

def AppConfig.read (r : Reading ν ε) (value : ν) : Except ε AppConfig :=
  r.record "AppConfig" ["server", "plugins", "logging"] value fun get ↦ do
    return {
      server := ← r.field get "server" (ServerConfig.read r) {}
      plugins := ← r.field get "plugins" (PluginConfig.read r) {}
      logging := ← r.field get "logging" (LoggingConfig.read r) {} }

def jsonReading : Reading Json String where
  text := Json.Decode.text
  bool := Json.Decode.bool
  natural bits := Json.Decode.natural ("u" ++ toString bits) bits
  texts := Json.Decode.list Json.Decode.text
  dict := Json.Decode.dict
  record title names value body :=
    Json.Decode.record title names
      (fun fields ↦ body fun name ↦ (fields.get? name).map (name, ·)) value
  locate _ complaint := complaint

def AppConfig.ofJson (value : Json) : Except String AppConfig := AppConfig.read jsonReading value

def ServerConfig.toJson (c : ServerConfig) : Json :=
  .ofMembers [("host", .text c.host), ("port", .int c.port),
    ("request_timeout_seconds", .int c.requestTimeoutSeconds),
    ("shutdown_grace_seconds", .int c.shutdownGraceSeconds)]

def PluginConfig.toJson (c : PluginConfig) : Json :=
  .ofMembers [("disabled", .list (c.disabled.map .text)),
    ("enforce_unique_ids", .bool c.enforceUniqueIds), ("settings", .ofDict c.settings)]

def LoggingConfig.toJson (c : LoggingConfig) : Json :=
  .ofMembers [("level", .text c.level), ("format", .text c.format)]

def AppConfig.toJson (c : AppConfig) : Json :=
  .ofMembers [("server", c.server.toJson), ("plugins", c.plugins.toJson),
    ("logging", c.logging.toJson)]

/-- A plugin's settings in a form of its own, or the default where none are configured. -/
def AppConfig.settings (c : AppConfig) (pluginId : String) (decode : Json.Decoder α) (default : α) :
    Except AppError α :=
  match c.plugins.settingsFor? pluginId with
  | none => .ok default
  | some value =>
    match decode value with
    | .ok a => .ok a
    | .error message =>
      .error ⟨.configuration, "Invalid settings for plugin '" ++ pluginId ++ "': " ++ message,
        [message]⟩

end FrontDoor.Config
