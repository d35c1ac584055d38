import FrontDoor.Http.HookLayer
import FrontDoor.Http.Router
import FrontDoor.Manager
import FrontDoor.Route.Shape

namespace FrontDoor.Http

variable {υ : Type}

/-- The routes mounted so far, with the path that took each shape. -/
structure Mounting (υ : Type) where
  router : Router υ := .empty
  shapes : List (String × String) := []

def wrap (path : String) (middleware : List (Middleware (host υ))) (r : Router υ) :
    Effect υ (Router υ) :=
  (middleware.reverse.filter fun m ↦ Route.scopeCovers m.scope path).foldlM (fun r m ↦ do
    Effect.log .debug .router "Applying middleware"
      [("path", .text path), ("scope", .text m.scope), ("priority", .int m.priority)]
    return m.apply r) r

def skip (path : String) (owner : Option String) (message : String) (fields : List (String × Json)) :
    Effect υ Unit :=
  Effect.log .warn .router message
    ([("path", .text path), ("owner", .text (Text.Outline.option (owner.map Text.quoted)))] ++ fields)

def Mounting.add (m : Mounting υ) (middleware : List (Middleware (host υ))) (owner : Option String)
    (path : String) (endpoint : MethodTable υ) : Effect υ (Mounting υ) := do
  if let some problem := Route.problem? path then
    skip path owner "Skipping endpoint with invalid path" [("reason", .text problem.text)]
    return m
  let shape := Route.shape path
  if let some (_, existing) := m.shapes.find? fun s ↦ s.1 = shape then
    skip path owner "Skipping endpoint that overlaps a mounted route" [("overlaps", .text existing)]
    return m
  match Route.Pattern.parse? path with
  | none =>
    skip path owner "Skipping endpoint rejected by the router" []
    return m
  | some pattern =>
    let route ← wrap path middleware (.single pattern endpoint)
    match m.router.merge? route with
    | none =>
      skip path owner "Skipping endpoint that conflicts with a mounted route" []
      return m
    | some router => return ⟨router, m.shapes ++ [(shape, path)]⟩

def mountAll (middleware : List (Middleware (host υ))) :
    List (String × OwnedEndpoint (MethodTable υ)) → Mounting υ → Effect υ (Mounting υ)
  | [], m => return m
  | (path, e) :: rest, m => do
    mountAll middleware rest (← m.add middleware (some e.owner) path e.endpoint)

def assemble (m : Manager (host υ) υ) (server : Config.ServerConfig) : Effect υ (Router υ) := do
  let mounting ← mountAll m.middleware m.table.entries {}
  return mounting.router.layer (hookLayer m.hooks server.requestTimeoutSeconds)

end FrontDoor.Http
