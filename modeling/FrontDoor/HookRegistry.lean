import FrontDoor.Hook

namespace FrontDoor

variable {υ : Type}

structure HookEntry (υ : Type) where
  pluginId : String
  hooks : List (Hook υ)

abbrev PhaseHooks (υ : Type) := List (HookEntry υ)

namespace PhaseHooks

def extend (pluginId : String) (hooks : List (Hook υ)) : PhaseHooks υ → PhaseHooks υ
  | [] => [⟨pluginId, hooks⟩]
  | e :: rest =>
    if e.pluginId = pluginId then { e with hooks := e.hooks ++ hooks } :: rest
    else e :: extend pluginId hooks rest

def append (entries : PhaseHooks υ) (pluginId : String) (hooks : List (Hook υ)) : PhaseHooks υ :=
  if hooks.isEmpty then entries else extend pluginId hooks entries

def hooksOf (entries : PhaseHooks υ) (pluginId : String) : List (Hook υ) :=
  match entries.find? fun e ↦ e.pluginId = pluginId with
  | some e => e.hooks
  | none => []

def hasAny (entries : PhaseHooks υ) : Bool := entries.any fun e ↦ !e.hooks.isEmpty

def count (entries : PhaseHooks υ) : Nat := (entries.flatMap (·.hooks)).length

def outline (entries : PhaseHooks υ) : String :=
  Text.Outline.record "PhaseHooks" [("entries", Text.Outline.list (entries.map fun e ↦
    Text.Outline.record "HookEntry"
      [("plugin_id", Text.quoted e.pluginId),
        ("hooks", Text.Outline.list (e.hooks.map Hook.outline))]))]

end PhaseHooks

structure HookRegistry (υ : Type) where
  before : PhaseHooks υ := []
  after : PhaseHooks υ := []

namespace HookRegistry

def empty : HookRegistry υ := {}

def phase (r : HookRegistry υ) : Phase → PhaseHooks υ
  | .before => r.before
  | .after => r.after

/-- Adds a plugin's bundle to what it already registered; nothing is merged or dropped. -/
def register (r : HookRegistry υ) (pluginId : String) (bundle : Option (HookBundle υ)) :
    HookRegistry υ :=
  match bundle with
  | none => r
  | some b => ⟨r.before.append pluginId b.before, r.after.append pluginId b.after⟩

/-- Runs the hooks of a plugin that accept the request, numbered from `index` on. -/
def runHooks (phase : Phase) (ctx : RequestContext) (path method : String) (payload : Payload)
    (pluginId : String) : Nat → List (Hook υ) → Effect υ (Except PluginError Unit)
  | _, [] => return .ok ()
  | index, hook :: rest => do
    if hook.accepts path method then
      match ← hook.call ctx payload with
      | .error fault => return .error (.hookFailed pluginId phase index fault)
      | .ok _ => runHooks phase ctx path method payload pluginId (index + 1) rest
    else runHooks phase ctx path method payload pluginId (index + 1) rest

def runEntries (phase : Phase) (ctx : RequestContext) (path method : String) (payload : Payload) :
    PhaseHooks υ → Effect υ (Except PluginError Unit)
  | [] => return .ok ()
  | e :: rest => do
    match ← runHooks phase ctx path method payload e.pluginId 0 e.hooks with
    | .error err => return .error err
    | .ok _ => runEntries phase ctx path method payload rest

def execute (r : HookRegistry υ) (phase : Phase) (ctx : RequestContext) (path method : String)
    (payload : Payload) : Effect υ (Except PluginError Unit) :=
  runEntries phase ctx path method payload (r.phase phase)

def hooksOf (r : HookRegistry υ) (phase : Phase) (pluginId : String) : List (Hook υ) :=
  (r.phase phase).hooksOf pluginId

def hasHooks (r : HookRegistry υ) (phase : Phase) : Bool := (r.phase phase).hasAny

def pluginIds (r : HookRegistry υ) (phase : Phase) : List String := (r.phase phase).map (·.pluginId)

def hookCount (r : HookRegistry υ) (phase : Phase) : Nat := (r.phase phase).count

def outline (r : HookRegistry υ) : String :=
  Text.Outline.record "HookRegistry" [("before", r.before.outline), ("after", r.after.outline)]

end HookRegistry

end FrontDoor
