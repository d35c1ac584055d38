import FrontDoor.Config.App
import FrontDoor.Http.Message
import FrontDoor.Plugin
import FrontDoor.Route.Pattern

namespace FrontDoor.Http

variable {υ : Type}

structure MethodTable (υ : Type) where
  service? : Method → Option (Service υ)
  otherwise : Service υ

namespace MethodTable

def serving (methods : List Method) (service : Service υ) : MethodTable υ where
  service? m := if methods.contains m then some service else none
  otherwise _ := return .empty 405

def get (service : Service υ) : MethodTable υ := serving [.get] service

def layer (f : Layer υ) (t : MethodTable υ) : MethodTable υ where
  service? m := (t.service? m).map f
  otherwise := f t.otherwise

/-- The methods told to clients; what is served for `GET` is served for `HEAD`. -/
def allowed (t : MethodTable υ) : List Method :=
  Method.all.filter fun m ↦ (t.service? m).isSome || m == .head && (t.service? .get).isSome

def allowText (t : MethodTable υ) : String := ",".intercalate (t.allowed.map Method.name)

def serviceFor? (t : MethodTable υ) (method : String) : Option (Service υ) :=
  match Method.ofName? method with
  | some .head => t.service? .head <|> t.service? .get
  | some m => t.service? m
  | none => none

/-- What is set on every response of an endpoint on its way out. A successful `CONNECT` has no body;
other responses tell their length, and a response to `HEAD` loses its body after that. -/
def finish (t : MethodTable υ) (served : Bool) (method : String) (r : Response) : Response :=
  if method = Method.connect.name ∧ r.isSuccess then { r with body := "" }
  else
    let r := if served then r else r.addHeader "allow" t.allowText
    let r := r.addHeader "content-length" (toString r.body.utf8ByteSize)
    if method = Method.head.name then { r with body := "" } else r

def handle (t : MethodTable υ) : Service υ := fun req ↦
  match t.serviceFor? req.method with
  | some service => return t.finish true req.method (← service req)
  | none => return t.finish false req.method (← t.otherwise req)

end MethodTable

structure Route (υ : Type) where
  pattern : Route.Pattern
  endpoint : MethodTable υ

structure Router (υ : Type) where
  routes : List (Route υ)
  fallback : Service υ
  ownFallback : Bool := false

namespace Router

def empty : Router υ := { routes := [], fallback := fun _ ↦ return .empty 404 }

def single (pattern : Route.Pattern) (endpoint : MethodTable υ) : Router υ :=
  { empty with routes := [⟨pattern, endpoint⟩] }

def layer (f : Layer υ) (r : Router υ) : Router υ where
  routes := r.routes.map fun route ↦ { route with endpoint := route.endpoint.layer f }
  fallback := f r.fallback
  ownFallback := r.ownFallback

/-- Adds the routes of another router, and takes over its fallback unless there is one of its own.
None if two patterns conflict or both routers have a fallback of their own. -/
def merge? (r other : Router υ) : Option (Router υ) :=
  if (other.routes.any fun b ↦ r.routes.any fun a ↦ a.pattern.conflicts b.pattern)
    || (r.ownFallback && other.ownFallback) then none
  else some { (if r.ownFallback then r else other) with routes := r.routes ++ other.routes }

/-- Of the routes that match a path, the one that goes before the others. -/
def route? (r : Router υ) (path : String) : Option (Route υ) :=
  (r.routes.filter fun route ↦ route.pattern.covers path.toList).foldl (fun best route ↦
    match best with
    | none => some route
    | some b => if route.pattern.precedes b.pattern then some route else some b) none

def handle (r : Router υ) : Service υ := fun req ↦
  match r.route? req.path with
  | some route => route.endpoint.handle req
  | none => r.fallback req

end Router

/-- The host of plugins that serve HTTP. -/
def host (υ : Type) : Host := ⟨Config.AppConfig, MethodTable υ, Router υ⟩

end FrontDoor.Http
