import FrontDoor.EndpointTable
import FrontDoor.HookRegistry

namespace FrontDoor

/-- The types of a host, none of which the plugin layer looks into. -/
structure Host where
  Context : Type
  Endpoint : Type
  Handler : Type

/-- A transform of the host's handler; lower priorities run first. -/
structure Middleware (H : Host) where
  scope : String
  priority : Int
  transform : H.Handler → H.Handler

namespace Middleware

variable {H : Host}

def defaultPriority : Int := 100

def withDefaultPriority (scope : String) (transform : H.Handler → H.Handler) : Middleware H :=
  ⟨scope, defaultPriority, transform⟩

def apply (m : Middleware H) (handler : H.Handler) : H.Handler := m.transform handler

def outline (m : Middleware H) : String :=
  Text.Outline.record "MiddlewareConfig"
    [("path", Text.quoted m.scope), ("priority", toString m.priority),
      ("transform", Text.quoted "<fn>")]

end Middleware

/-- A plugin is initialized once; then its contributions are read once each. -/
structure Plugin (H : Host) (υ : Type) where
  id : String
  start : H.Context → Effect υ (Except Fault Unit) := fun _ ↦ pure (.ok ())
  endpoints : Effect υ (Dict H.Endpoint) := pure ∅
  hooks : Effect υ (Option (HookBundle υ)) := pure none
  middleware : Effect υ (List (Middleware H)) := pure []
  outline : Effect υ String := pure ""

abbrev PluginList (H : Host) (υ : Type) := List (Plugin H υ)

namespace PluginList

variable {H : Host} {υ : Type}

def ids (ps : PluginList H υ) : List String := ps.map (·.id)

def repeatedId? (seen : List String) : List String → Option String
  | [] => none
  | id :: rest => if seen.contains id then some id else repeatedId? (id :: seen) rest

def ensureUniqueIds (ps : PluginList H υ) : Except PluginError Unit :=
  match repeatedId? [] ps.ids with
  | some id => .error (.duplicatePlugin id)
  | none => .ok ()

def withId? (ps : PluginList H υ) (id : String) : Option (Plugin H υ) := ps.find? fun p ↦ p.id = id

def hasId (ps : PluginList H υ) (id : String) : Bool := (ps.withId? id).isSome

def outline (ps : PluginList H υ) : String := Text.Outline.list (ps.ids.map Text.quoted)

end PluginList

end FrontDoor
