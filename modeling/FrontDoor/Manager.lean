import FrontDoor.Plugin

namespace FrontDoor

inductive ManagerState where
  | uninitialized
  | initialized
  | failed
deriving DecidableEq, Repr

def ManagerState.name : ManagerState → String
  | uninitialized => "Uninitialized"
  | initialized => "Initialized"
  | failed => "Failed"

structure Manager (H : Host) (υ : Type) where
  plugins : PluginList H υ
  table : EndpointTable H.Endpoint := ∅
  hooks : HookRegistry υ := {}
  middleware : List (Middleware H) := []
  state : ManagerState := .uninitialized

namespace Manager

variable {H : Host} {υ : Type}

def ofPlugins (plugins : PluginList H υ) : Manager H υ := { plugins }

def ofDistinctPlugins (plugins : PluginList H υ) : Except PluginError (Manager H υ) := do
  plugins.ensureUniqueIds
  return ofPlugins plugins

def addHooks (m : Manager H υ) (pluginId : String) (bundle : Option (HookBundle υ)) :
    Effect υ (Manager H υ) := do
  if let some b := bundle then
    Effect.log .debug .hookRegistry "Hooks registered"
      [("plugin_id", .text pluginId), ("before", .int b.before.length), ("after", .int b.after.length)]
  return { m with hooks := m.hooks.register pluginId bundle }

def addMiddleware (m : Manager H υ) (pluginId : String) (added : List (Middleware H)) :
    Effect υ (Manager H υ) := do
  added.forM fun mw ↦ Effect.log .debug .manager "Middleware collected"
    [("plugin_id", .text pluginId), ("path", .text mw.scope), ("priority", .int mw.priority)]
  return { m with middleware := m.middleware ++ added }

/-- Initializes one plugin and merges its contributions: endpoints first, then hooks, then
middleware. -/
def adopt (m : Manager H υ) (ctx : H.Context) (p : Plugin H υ) :
    Effect υ (Manager H υ × Except PluginError Unit) := do
  match ← p.start ctx with
  | .error fault => return (m, .error (.initialization p.id fault))
  | .ok _ =>
    let (table, added) := EndpointTable.addAll p.id (← p.endpoints).entries m.table
    let m := { m with table }
    match added with
    | .error e => return (m, .error e)
    | .ok _ =>
      let m ← m.addHooks p.id (← p.hooks)
      let m ← m.addMiddleware p.id (← p.middleware)
      Effect.log .debug .manager "Plugin initialized" [("plugin_id", .text p.id)]
      return (m, .ok ())

def adoptAll (ctx : H.Context) : List (Plugin H υ) → Manager H υ →
    Effect υ (Manager H υ × Except PluginError Unit)
  | [], m => return (m, .ok ())
  | p :: rest, m => do
    match ← m.adopt ctx p with
    | (m, .ok _) => adoptAll ctx rest m
    | (m, .error e) => return (m, .error e)

def sortByPriority (ms : List (Middleware H)) : List (Middleware H) :=
  ms.mergeSort fun a b ↦ a.priority ≤ b.priority

def start (m : Manager H υ) (ctx : H.Context) : Effect υ (Manager H υ × Except PluginError Unit) := do
  if m.state ≠ .uninitialized then return (m, .error .alreadyInitialized)
  match ← adoptAll ctx m.plugins m with
  | (m, .ok _) =>
    let m := { m with middleware := sortByPriority m.middleware, state := .initialized }
    Effect.log .info .manager "Plugins initialized"
      [("plugins", .int m.plugins.length), ("endpoints", .int m.table.size),
        ("middleware", .int m.middleware.length)]
    return (m, .ok ())
  | (m, .error e) => return ({ m with state := .failed }, .error e)

def isInitialized (m : Manager H υ) : Bool := m.state == .initialized

def endpoints (m : Manager H υ) : Dict H.Endpoint := m.table.endpoints

def endpointOwner? (m : Manager H υ) (path : String) : Option String := m.table.owner? path

def plugin? (m : Manager H υ) (id : String) : Option (Plugin H υ) := m.plugins.withId? id

def hasPlugin (m : Manager H υ) (id : String) : Bool := m.plugins.hasId id

def outline (m : Manager H υ) : String :=
  Text.Outline.record "PluginManager"
    [("plugins", m.plugins.outline), ("endpoints", m.table.outline), ("hooks", m.hooks.outline),
      ("middleware", Text.Outline.list (m.middleware.map Middleware.outline)), ("state", m.state.name)]

end Manager

end FrontDoor
