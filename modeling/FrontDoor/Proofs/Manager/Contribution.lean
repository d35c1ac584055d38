import FrontDoor.Manager
import FrontDoor.Proofs.Effect
import FrontDoor.Proofs.Endpoints
import FrontDoor.Proofs.Hooks.Registration

namespace FrontDoor

variable {H : Host} {υ : Type}

structure Contribution (H : Host) (υ : Type) where
  plugin : Plugin H υ
  endpoints : Dict H.Endpoint
  hooks : Option (HookBundle υ)
  middleware : List (Middleware H)

namespace Contribution

def registration (c : Contribution H υ) : Registration υ := ⟨c.plugin.id, c.hooks⟩

def owned? (c : Contribution H υ) (path : String) : Option (OwnedEndpoint H.Endpoint) :=
  (c.endpoints.get? path).map (⟨c.plugin.id, ·⟩)

theorem owned?_eq_some {c : Contribution H υ} {path : String} {o : OwnedEndpoint H.Endpoint} :
    c.owned? path = some o ↔ c.endpoints.get? path = some o.endpoint ∧ c.plugin.id = o.owner := by
  rcases o with ⟨owner, endpoint⟩
  simp [owned?]

def hookNotes (id : String) : Option (HookBundle υ) → List Log.Event
  | some b => [⟨.debug, .hookRegistry, "Hooks registered",
      [("plugin_id", .text id), ("before", .int b.before.length), ("after", .int b.after.length)]⟩]
  | none => []

def middlewareNotes (id : String) (ms : List (Middleware H)) : List Log.Event :=
  (ms.map fun m ↦ ⟨.debug, .manager, "Middleware collected",
    [("plugin_id", .text id), ("path", .text m.scope), ("priority", .int m.priority)]⟩).reverse

def closingNote (id : String) : Log.Event :=
  ⟨.debug, .manager, "Plugin initialized", [("plugin_id", .text id)]⟩

/-- The plugin starts without a fault, and its contributions are then read once each; only log
events stand between. -/
inductive Given (ctx : H.Context) (c : Contribution H υ) (w : World υ) : World υ → Prop
  | intro {w₁ w₂ w₃ w₄ : World υ} :
      (c.plugin.start ctx).outcome w = (.ok (.ok ()), w₁) →
      c.plugin.endpoints.outcome w₁ = (.ok c.endpoints, w₂) →
      c.plugin.hooks.outcome w₂ = (.ok c.hooks, w₃) →
      c.plugin.middleware.outcome (w₃.logged (hookNotes c.plugin.id c.hooks)) =
        (.ok c.middleware, w₄) →
      Given ctx c w (w₄.logged (closingNote c.plugin.id :: middlewareNotes c.plugin.id c.middleware))

theorem Given.deterministic {ctx : H.Context} {c c' : Contribution H υ} {w w₁ w₂ : World υ}
    (h : Given ctx c w w₁) (h' : Given ctx c' w w₂) (hp : c.plugin = c'.plugin) :
    c = c' ∧ w₁ = w₂ := by
  rcases c with ⟨p, d, b, ms⟩
  rcases c' with ⟨p', d', b', ms'⟩
  dsimp only at hp
  subst hp
  cases h with
  | intro hs he hb hm =>
    cases h' with
    | intro hs' he' hb' hm' =>
      obtain ⟨-, rfl⟩ := Prod.mk.inj (hs.symm.trans hs')
      obtain ⟨hd, rfl⟩ := Prod.mk.inj (he.symm.trans he')
      cases hd
      obtain ⟨hbundle, rfl⟩ := Prod.mk.inj (hb.symm.trans hb')
      cases hbundle
      obtain ⟨hmw, rfl⟩ := Prod.mk.inj (hm.symm.trans hm')
      cases hmw
      exact ⟨rfl, rfl⟩

theorem runs_deterministic {ctx : H.Context} {cs cs' : List (Contribution H υ)} {w w₁ w₂ : World υ}
    (h : Runs (Given ctx) cs w w₁) (h' : Runs (Given ctx) cs' w w₂)
    (hp : cs.map (·.plugin) = cs'.map (·.plugin)) : cs = cs' ∧ w₁ = w₂ := by
  induction h generalizing cs' with
  | nil =>
    obtain rfl : cs' = [] := List.map_eq_nil_iff.1 hp.symm
    cases h'
    exact ⟨rfl, rfl⟩
  | cons hc _ ih =>
    cases h' with
    | nil => simp at hp
    | cons hc' ht' =>
      obtain ⟨hhead, htail⟩ := List.cons.inj hp
      obtain ⟨rfl, rfl⟩ := hc.deterministic hc' hhead
      obtain ⟨rfl, rfl⟩ := ih ht' htail
      exact ⟨rfl, rfl⟩

def NoSharedPath (cs : List (Contribution H υ)) : Prop :=
  cs.Pairwise fun a b ↦ ∀ path, a.endpoints.contains path → ¬ b.endpoints.contains path

/-- Contributions whose paths are free in a table and not declared twice. -/
structure Fit (t : EndpointTable H.Endpoint) (cs : List (Contribution H υ)) : Prop where
  free : ∀ c ∈ cs, ∀ path, c.endpoints.contains path → t.get? path = none
  noSharedPath : NoSharedPath cs

end Contribution

end FrontDoor
