import FrontDoor.Error.Basic
import FrontDoor.Matcher
import FrontDoor.Payload
import FrontDoor.RequestContext

namespace FrontDoor

variable {υ : Type}

abbrev HookHandler (υ : Type) := RequestContext → Payload → Effect υ (Except Fault Unit)

structure Hook (υ : Type) where
  matcher : Matcher
  handler : HookHandler υ

namespace Hook

def accepts (h : Hook υ) (path method : String) : Bool := h.matcher.accepts path method

def call (h : Hook υ) (ctx : RequestContext) (payload : Payload) : Effect υ (Except Fault Unit) :=
  h.handler ctx payload

def outline (h : Hook υ) : String :=
  Text.Outline.record "Hook" [("matcher", h.matcher.outline), ("handler", Text.quoted "<handler>")]

end Hook

structure HookBundle (υ : Type) where
  before : List (Hook υ) := []
  after : List (Hook υ) := []

namespace HookBundle

def phase (b : HookBundle υ) : Phase → List (Hook υ)
  | .before => b.before
  | .after => b.after

def isEmpty (b : HookBundle υ) : Bool := b.before.isEmpty && b.after.isEmpty

instance : Append (HookBundle υ) := ⟨fun a b ↦ ⟨a.before ++ b.before, a.after ++ b.after⟩⟩

def outline (b : HookBundle υ) : String :=
  Text.Outline.record "HookConfig"
    [("before", Text.Outline.list (b.before.map Hook.outline)),
      ("after", Text.Outline.list (b.after.map Hook.outline))]

end HookBundle

end FrontDoor
