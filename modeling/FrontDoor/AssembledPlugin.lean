import FrontDoor.Plugin

namespace FrontDoor

structure AssembledPlugin (H : Host) (υ : Type) where
  id : String
  onStart : Option (H.Context → Effect υ (Except Fault Unit)) := none
  endpoints : Dict H.Endpoint := ∅
  hooks : Option (HookBundle υ) := none
  middleware : List (Middleware H) := []

namespace AssembledPlugin

variable {H : Host} {υ : Type}

def withEndpoint (p : AssembledPlugin H υ) (path : String) (endpoint : H.Endpoint) :
    AssembledPlugin H υ :=
  { p with endpoints := p.endpoints.insert path endpoint }

def withHooks (p : AssembledPlugin H υ) (bundle : HookBundle υ) : AssembledPlugin H υ :=
  { p with hooks := some (p.hooks.getD {} ++ bundle) }

def withMiddleware (p : AssembledPlugin H υ) (m : Middleware H) : AssembledPlugin H υ :=
  { p with middleware := p.middleware ++ [m] }

def outline (p : AssembledPlugin H υ) : String :=
  Text.Outline.record "BasicPlugin"
    [("id", Text.quoted p.id), ("endpoints", Text.Outline.list (p.endpoints.keys.map Text.quoted)),
      ("hooks", Text.Outline.option (p.hooks.map HookBundle.outline)),
      ("middleware", Text.Outline.list (p.middleware.map Middleware.outline))]

def toPlugin (p : AssembledPlugin H υ) : Plugin H υ where
  id := p.id
  start ctx :=
    match p.onStart with
    | some init => init ctx
    | none => pure (.ok ())
  endpoints := pure p.endpoints
  hooks := pure p.hooks
  middleware := pure p.middleware
  outline := pure p.outline

end AssembledPlugin

end FrontDoor
