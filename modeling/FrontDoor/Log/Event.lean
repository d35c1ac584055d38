import FrontDoor.Json.Basic

namespace FrontDoor.Log

inductive Level where
  | error
  | warn
  | info
  | debug
  | trace
deriving DecidableEq, Repr

namespace Level

def name : Level → String
  | error => "ERROR"
  | warn => "WARN"
  | info => "INFO"
  | debug => "DEBUG"
  | trace => "TRACE"

def verbosity : Level → Nat
  | error => 1
  | warn => 2
  | info => 3
  | debug => 4
  | trace => 5

end Level

inductive Component where
  | server
  | manager
  | hookRegistry
  | router
  | hookLayer
  | errorResponse
  | rateLimit
  | audit
deriving DecidableEq, Repr

def Component.target : Component → String
  | server => "gatehouse"
  | manager => "gatehouse_plugin::manager"
  | hookRegistry => "gatehouse_plugin::hooks::registry"
  | router => "gatehouse_api::router"
  | hookLayer => "gatehouse_api::middleware::hooks"
  | errorResponse => "gatehouse_api::error"
  | rateLimit => "plugin_rate_limit::plugin"
  | audit => "plugin_audit::plugin"

structure Event where
  level : Level
  component : Component
  message : String
  fields : List (String × Json) := []

end FrontDoor.Log
