import FrontDoor.Proofs.Frame.Requests

namespace FrontDoor

namespace Agreement

variable {α β γ δ : Type} {R : α → β → Prop} {S : γ → δ → Prop} {x x' : Option α} {y y' : Option β}

theorem isSome_eq_of_rel (h : Option.Rel R x y) : x.isSome = y.isSome := by
  cases h <;> rfl

theorem rel_orElse (h : Option.Rel R x y) (h' : Option.Rel R x' y') :
    Option.Rel R (x <|> x') (y <|> y') := by
  cases h with
  | some hxy => exact .some hxy
  | none => exact h'

theorem rel_map (h : Option.Rel R x y) {f : α → γ} {g : β → δ} (hfg : ∀ a b, R a b → S (f a) (g b)) :
    Option.Rel S (x.map f) (y.map g) := by
  cases h with
  | some hxy => exact .some (hfg _ _ hxy)
  | none => exact .none

theorem rel_elim (h : Option.Rel R x y) {c : γ} {d : δ} {f : α → γ} {g : β → δ} (hcd : S c d)
    (hfg : ∀ a b, R a b → S (f a) (g b)) : S (x.elim c f) (y.elim d g) := by
  cases h with
  | some hxy => exact hfg _ _ hxy
  | none => exact hcd

end Agreement

namespace Http

open Agreement

variable {υ α : Type} {c : Cell υ α} {a : α}

/-- Two services do the same with a request that comes while a cell holds this, and leave the cell
with it. -/
def Service.Agree (c : Cell υ α) (a : α) (s s' : Service υ) : Prop :=
  ∀ req w, c.read w.store = a → (s req).outcome w = (s' req).outcome w ∧
    c.read ((s req).outcome w).2.store = a

theorem Service.agree_of_keeps {s : Service υ} (h : Service.Keeps c s) (a : α) :
    Service.Agree c a s s :=
  fun req w hw ↦ ⟨rfl, Cell.Kept.read_eq (h req w) hw⟩

structure MethodTable.Agree (c : Cell υ α) (a : α) (t u : MethodTable υ) : Prop where
  service : ∀ m, Option.Rel (Service.Agree c a) (t.service? m) (u.service? m)
  otherwise : Service.Agree c a t.otherwise u.otherwise

namespace MethodTable

variable {t u : MethodTable υ}

theorem agree_of_keeps (h : t.Keeps c) (a : α) : t.Agree c a t where
  service m := by
    cases hservice : t.service? m with
    | none => exact .none
    | some service => exact .some (Service.agree_of_keeps (h.service m service hservice) a)
  otherwise := Service.agree_of_keeps h.otherwise a

theorem agree_get {s s' : Service υ} (h : Service.Agree c a s s') : (get s).Agree c a (get s') where
  service m := by
    rw [get, get, serving, serving]
    dsimp only
    split
    · exact .some h
    · exact .none
  otherwise := Service.agree_of_keeps (fun _ ↦ Effect.keeps_pure _) a

theorem Agree.answering (h : t.Agree c a u) (method : String) :
    Service.Agree c a (t.answering method) (u.answering method) := by
  have hserviceFor : Option.Rel (Service.Agree c a) (t.serviceFor? method) (u.serviceFor? method) := by
    rw [serviceFor?, serviceFor?]
    split
    · exact rel_orElse (h.service .head) (h.service .get)
    · exact h.service _
    · exact .none
  have helim (t : MethodTable υ) :
      t.answering method = (t.serviceFor? method).elim t.otherwise id := by
    rw [MethodTable.answering]
    cases t.serviceFor? method <;> rfl
  rw [helim, helim]
  exact rel_elim hserviceFor h.otherwise fun _ _ hservice ↦ hservice

theorem Agree.layer {f : Layer υ}
    (hf : ∀ s s', Service.Agree c a s s' → Service.Agree c a (f s) (f s')) (h : t.Agree c a u) :
    (t.layer f).Agree c a (u.layer f) where
  service m := rel_map (h.service m) hf
  otherwise := hf _ _ h.otherwise

end MethodTable

structure Route.Agree (c : Cell υ α) (a : α) (x y : Route υ) : Prop where
  pattern : x.pattern = y.pattern
  endpoint : x.endpoint.Agree c a y.endpoint

structure Router.Agree (c : Cell υ α) (a : α) (r s : Router υ) : Prop where
  routes : List.Forall₂ (Route.Agree c a) r.routes s.routes
  fallback : Service.Agree c a r.fallback s.fallback
  ownFallback : r.ownFallback = s.ownFallback

namespace Router

variable {r s r' s' : Router υ}

theorem Agree.rel_route? (h : r.Agree c a s) (path : String) :
    Option.Rel (Route.Agree c a) (r.route? path) (s.route? path) :=
  route?_rel (fun _ _ hxy ↦ hxy.pattern) h.routes path

theorem Agree.serving (h : r.Agree c a s) (req : Request) :
    Service.Agree c a (r.serving req) (s.serving req) :=
  rel_elim (h.rel_route? req.path) h.fallback fun _ _ hroute ↦ hroute.endpoint.answering req.method

theorem Agree.finishing (h : r.Agree c a s) (req : Request) : r.finishing req = s.finishing req := by
  refine rel_elim (h.rel_route? req.path) rfl fun x y hroute ↦ ?_
  have hmethods (m : Method) := isSome_eq_of_rel (hroute.endpoint.service m)
  rw [MethodTable.finish_congr hmethods, MethodTable.serves_congr hmethods]

theorem Agree.layer {f : Layer υ}
    (hf : ∀ s s', Service.Agree c a s s' → Service.Agree c a (f s) (f s')) (h : r.Agree c a s) :
    (r.layer f).Agree c a (s.layer f) where
  routes := by
    rw [Router.layer, Router.layer]
    refine List.forall₂_map_left_iff.2 (List.forall₂_map_right_iff.2 (h.routes.imp fun x y hxy ↦ ?_))
    exact ⟨hxy.pattern, hxy.endpoint.layer hf⟩
  fallback := hf _ _ h.fallback
  ownFallback := h.ownFallback

theorem Agree.patterns (h : r.Agree c a s) : r.patterns = s.patterns := by
  rw [Router.patterns, Router.patterns, ← List.forall₂_eq_eq_eq]
  exact List.forall₂_map_left_iff.2
    (List.forall₂_map_right_iff.2 (h.routes.imp fun _ _ hxy ↦ hxy.pattern))

theorem Agree.merge? (h : r.Agree c a s) (h' : r'.Agree c a s') :
    Option.Rel (Router.Agree c a) (r.merge? r') (s.merge? s') := by
  rw [Router.merge?_eq, Router.merge?_eq, h.patterns, h'.patterns, h.ownFallback, h'.ownFallback]
  split
  · exact .none
  · refine .some ⟨List.rel_append h.routes h'.routes, ?_, ?_⟩
    · cases s.ownFallback
      · exact h'.fallback
      · exact h.fallback
    · cases s.ownFallback
      · exact h'.ownFallback
      · exact h.ownFallback

end Router

/-- Middleware that has nothing to do with a cell: of routers that agree it makes routers that
agree. -/
def Ignores (c : Cell υ α) (mw : Middleware (host υ)) : Prop :=
  ∀ a r s, Router.Agree c a r s → Router.Agree c a (applied mw r) (applied mw s)

theorem Interceptor.Keeps.agree_layer {i : Interceptor υ} (hi : i.Keeps c) {s s' : Service υ}
    (h : Service.Agree c a s s') : Service.Agree c a (i.layer s) (i.layer s') := by
  intro req w hw
  rw [Interceptor.layer, Interceptor.layer]
  rcases hasked : (i req).outcome w with ⟨reason | response | ⟨forwarded, back⟩, w₁⟩
  · rw [Effect.outcome_bind_of_error hasked, Effect.outcome_bind_of_error hasked]
    exact ⟨rfl, ((hi.asked req).kept hasked).read_eq hw⟩
  · rw [Effect.outcome_bind_of_ok hasked, Effect.outcome_bind_of_ok hasked]
    exact ⟨rfl, ((hi.asked req).kept hasked).read_eq hw⟩
  · obtain ⟨hsame, hleft⟩ := h forwarded w₁ (((hi.asked req).kept hasked).read_eq hw)
    have hback := hi.back req w forwarded back w₁ hasked
    rw [Effect.outcome_bind_of_ok hasked, Effect.outcome_bind_of_ok hasked]
    dsimp only
    rw [Effect.outcome_bind_of_ok (Effect.outcome_attempt (s forwarded) w₁),
      Effect.outcome_bind_of_ok (Effect.outcome_attempt (s' forwarded) w₁), hsame]
    rw [hsame] at hleft
    exact ⟨rfl, Cell.Kept.read_eq (hback _ _) hleft⟩

theorem Intercepts.ignores {mw : Middleware (host υ)} (h : Intercepts c mw) : Ignores c mw := by
  obtain ⟨i, hlayer, hi⟩ := h
  intro a r s hrs
  rw [hlayer, hlayer]
  exact hrs.layer fun _ _ ↦ hi.agree_layer

theorem agree_wrapped {middleware : List (Middleware (host υ))}
    (hignores : ∀ mw ∈ middleware, Ignores c mw) (path : String) {r s : Router υ} (h : r.Agree c a s) :
    (wrapped path middleware r).Agree c a (wrapped path middleware s) := by
  have hfold (ms : List (Middleware (host υ))) (hms : ∀ mw ∈ ms, Ignores c mw) :
      Router.Agree c a (ms.foldr applied r) (ms.foldr applied s) := by
    induction ms with
    | nil => exact h
    | cons mw ms ih =>
      exact hms mw List.mem_cons_self a _ _ (ih fun x hx ↦ hms x (List.mem_cons_of_mem mw hx))
  exact hfold _ fun mw hmw ↦ hignores mw (List.mem_filter.1 hmw).1

structure Mounting.Agree (c : Cell υ α) (a : α) (m n : Mounting υ) : Prop where
  shapes : m.shapes = n.shapes
  router : m.router.Agree c a n.router

namespace Mounting

variable {m n : Mounting υ} {middleware : List (Middleware (host υ))}

theorem Agree.added (h : m.Agree c a n) (hignores : ∀ mw ∈ middleware, Ignores c mw) (path : String)
    {t u : MethodTable υ} (htu : t.Agree c a u) :
    (m.added middleware path t).Agree c a (n.added middleware path u) := by
  have hpattern : m.pattern? path = n.pattern? path := by rw [pattern?, pattern?, h.shapes]
  rw [Mounting.added, Mounting.added, hpattern]
  cases n.pattern? path with
  | none => exact h
  | some π =>
    have hsingle : (Router.single π t).Agree c a (Router.single π u) :=
      ⟨.cons ⟨rfl, htu⟩ .nil, Service.agree_of_keeps (fun _ ↦ Effect.keeps_pure _) a, rfl⟩
    have hmerged := h.router.merge? (agree_wrapped hignores path hsingle)
    dsimp only
    generalize m.router.merge? _ = x at hmerged ⊢
    generalize n.router.merge? _ = y at hmerged ⊢
    cases hmerged with
    | none => exact h
    | some hrouter => exact ⟨by rw [h.shapes], hrouter⟩

theorem Agree.mount (h : m.Agree c a n) (hignores : ∀ mw ∈ middleware, Ignores c mw)
    {es fs : List (String × OwnedEndpoint (MethodTable υ))}
    (hes : List.Forall₂ (fun e f ↦ e.1 = f.1 ∧ e.2.endpoint.Agree c a f.2.endpoint) es fs) :
    (m.mount middleware es).Agree c a (n.mount middleware fs) := by
  induction hes generalizing m n with
  | nil => exact h
  | @cons e f es fs hef _ ih =>
    have hadded := ih (h.added hignores e.1 hef.2)
    rw [mount, mount, List.foldl_cons, List.foldl_cons, ← hef.1]
    exact hadded

end Mounting

theorem agree_mounting {m n : Manager (host υ) υ} (hignores : ∀ mw ∈ m.middleware, Ignores c mw)
    (hmiddleware : n.middleware = m.middleware)
    (hentries : List.Forall₂
      (fun e f ↦ e.1 = f.1 ∧ e.2.endpoint.Agree c a f.2.endpoint) m.table.entries
      n.table.entries) : (mounting m).Agree c a (mounting n) := by
  have hempty : ({} : Mounting υ).Agree c a {} :=
    ⟨rfl, .nil, Service.agree_of_keeps (fun _ ↦ Effect.keeps_pure _) a, rfl⟩
  rw [mounting, mounting, hmiddleware]
  exact hempty.mount hignores hentries

section

variable {registry : HookRegistry υ} {seconds : Nat} {req forwarded : Request} {w w₁ : World υ}
  {next next' : Service υ}

theorem outcome_hookLayer_congr (h : Admits registry seconds req w forwarded w₁)
    (hsame : (next forwarded).outcome w₁ = (next' forwarded).outcome w₁) :
    (hookLayer registry seconds next req).outcome w =
      (hookLayer registry seconds next' req).outcome w := by
  cases h with
  | untouched hnone =>
    rw [hookLayer_eq_of_no_hooks hnone, hookLayer_eq_of_no_hooks hnone]
    exact hsame
  | @hooked p _ hp hfits hrun =>
    have haround : (runAround registry (contextAt w req seconds) next req).outcome (opened w) =
        (runAround registry (contextAt w req seconds) next' req).outcome (opened w) := by
      rcases hnext : (next _).outcome w₁ with ⟨reason | response, w₂⟩
      · have hnext' := hsame.symm.trans hnext
        exact (outcome_runAround (.abortedService hrun hnext)).trans
          (outcome_runAround (.abortedService hrun hnext')).symm
      · have hnext' := hsame.symm.trans hnext
        exact (outcome_runAround_of_answer hrun hnext).trans
          (outcome_runAround_of_answer hrun hnext').symm
    rw [outcome_hookLayer_of_hasHooks hp hfits, outcome_hookLayer_of_hasHooks hp hfits, haround]

theorem outcome_hookLayer_of_agree (h : Service.Agree c a next next') (seconds : Nat)
    (hbefore : ∀ x ∈ registry.placed .before, x.hook.Keeps c) (hw : c.read w.store = a) :
    (hookLayer registry seconds next req).outcome w =
      (hookLayer registry seconds next' req).outcome w := by
  by_cases hadmits : ∃ forwarded w₁, Admits registry seconds req w forwarded w₁
  · obtain ⟨forwarded, w₁, hadmits⟩ := hadmits
    exact outcome_hookLayer_congr hadmits
      (h forwarded w₁ ((kept_of_admits hadmits hbefore).read_eq hw)).1
  · obtain ⟨result, w', houtcome, -⟩ := exists_outcome_of_not_admits hadmits hbefore
    rw [houtcome, houtcome]

theorem outcome_handle_eq_of_agree {r s : Router υ} (h : r.Agree c a s) (seconds : Nat)
    (hbefore : ∀ x ∈ registry.placed .before, x.hook.Keeps c) (hw : c.read w.store = a) :
    ((r.layer (hookLayer registry seconds)).handle req).outcome w =
      ((s.layer (hookLayer registry seconds)).handle req).outcome w := by
  rw [Router.handle_layer, Router.handle_layer, h.finishing, Effect.outcome_map, Effect.outcome_map,
    outcome_hookLayer_of_agree (h.serving req) seconds hbefore hw]

end

end Http

end FrontDoor
