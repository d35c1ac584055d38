import FrontDoor.Error.Kind
import FrontDoor.Phase

namespace FrontDoor

structure AppError where
  kind : ErrorKind
  message : String
  causes : List String := []
deriving DecidableEq

def AppError.text (e : AppError) : String := e.kind.code ++ ": " ++ e.message

inductive Fault where
  | app (error : AppError)
  | other (message : String) (causes : List String)
deriving DecidableEq

namespace Fault

def plain (message : String) : Fault := .other message []

def text : Fault → String
  | .app e => e.text
  | .other message _ => message

def causes : Fault → List String
  | .app e => e.causes
  | .other _ causes => causes

def chain (f : Fault) : List String := f.text :: f.causes

end Fault

inductive PluginError where
  | initialization (pluginId : String) (source : Fault)
  | endpointConflict (path pluginId existing : String)
  | hookFailed (pluginId : String) (phase : Phase) (index : Nat) (source : Fault)
  | duplicatePlugin (pluginId : String)
  | alreadyInitialized
deriving DecidableEq

namespace PluginError

def text : PluginError → String
  | .initialization pluginId source =>
    "plugin '" ++ pluginId ++ "' failed to initialize: " ++ source.text
  | .endpointConflict path pluginId existing =>
    "endpoint '" ++ path ++ "' from plugin '" ++ pluginId ++ "' is already registered by plugin '"
      ++ existing ++ "'"
  | .hookFailed pluginId phase index source =>
    phase.name ++ " hook #" ++ toString index ++ " of plugin '" ++ pluginId ++ "' failed: " ++
      source.text
  | .duplicatePlugin pluginId => "duplicate plugin identifier '" ++ pluginId ++ "'"
  | .alreadyInitialized => "plugin manager has already been initialized"

def pluginId? : PluginError → Option String
  | .initialization pluginId _ | .endpointConflict _ pluginId _ | .hookFailed pluginId _ _ _
  | .duplicatePlugin pluginId => some pluginId
  | .alreadyInitialized => none

def causes : PluginError → List String
  | .initialization _ source | .hookFailed _ _ _ source => source.chain
  | _ => []

def toFault (e : PluginError) : Fault := .other e.text e.causes

def toAppError (e : PluginError) : AppError :=
  let causes := e.text :: e.causes
  match e with
  | .hookFailed _ _ _ (.app inner) => ⟨inner.kind, inner.message, causes⟩
  | .endpointConflict .. | .duplicatePlugin _ => ⟨.conflict, e.text, causes⟩
  | _ => ⟨.plugin, e.text, causes⟩

end PluginError

end FrontDoor
