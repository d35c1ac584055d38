import FrontDoor.Http.Router
import Mathlib.Data.List.Forall2

namespace FrontDoor.Http

variable {υ : Type}

namespace MethodTable

variable (t : MethodTable υ) (f g : Layer υ)

/-- The service that answers a method, be it the one for methods without any. -/
def answering (method : String) : Service υ := (t.serviceFor? method).getD t.otherwise

def serves (method : String) : Bool := (t.serviceFor? method).isSome

theorem handle_eq (req : Request) :
    t.handle req =
      return t.finish (t.serves req.method) req.method (← t.answering req.method req) := by
  rw [handle, serves, answering]
  cases t.serviceFor? req.method <;> rfl

theorem serviceFor?_layer (method : String) :
    (t.layer f).serviceFor? method = (t.serviceFor? method).map f := by
  simp only [serviceFor?]
  split
  · cases hhead : t.service? .head <;> simp [layer, hhead]
  · rfl
  · rfl

theorem answering_layer (method : String) : (t.layer f).answering method = f (t.answering method) := by
  rw [answering, serviceFor?_layer, answering]
  cases t.serviceFor? method <;> rfl

theorem answering_cases (method : String) :
    t.answering method = t.otherwise ∨ ∃ m, t.service? m = some (t.answering method) := by
  have hserviceFor (service : Service υ) (h : t.serviceFor? method = some service) :
      ∃ m, t.service? m = some service := by
    rw [serviceFor?] at h
    split at h
    · cases hhead : t.service? .head with
      | some head =>
        rw [hhead] at h
        cases h
        exact ⟨.head, hhead⟩
      | none =>
        rw [hhead] at h
        exact ⟨.get, h⟩
    · exact ⟨_, h⟩
    · cases h
  rw [answering]
  cases hservice : t.serviceFor? method with
  | none => exact .inl rfl
  | some service => exact .inr (hserviceFor service hservice)

theorem eq_of_service?_get {service service' : Service υ} {m : Method}
    (h : (get service).service? m = some service') :
    service' = service := by
  rw [get, serving] at h
  dsimp only at h
  split at h
  · exact (Option.some.inj h).symm
  · cases h

theorem serves_congr {t u : MethodTable υ} (h : ∀ m, (t.service? m).isSome = (u.service? m).isSome)
    (method : String) :
    t.serves method = u.serves method := by
  simp only [serves, serviceFor?]
  split <;> simp [h]

theorem finish_congr {t u : MethodTable υ} (h : ∀ m, (t.service? m).isSome = (u.service? m).isSome) :
    t.finish = u.finish := by
  have hallow : t.allowText = u.allowText := by simp only [allowText, allowed, h]
  funext served method r
  simp only [finish, hallow]

theorem isSome_service?_layer (m : Method) :
    ((t.layer f).service? m).isSome = (t.service? m).isSome := by
  rw [layer, Option.isSome_map]

theorem layer_layer : (t.layer f).layer g = t.layer fun next ↦ g (f next) := by
  simp only [layer, Option.map_map]
  rfl

theorem layer_id : t.layer (fun next ↦ next) = t := by
  simp only [layer, Option.map_id']

end MethodTable

namespace Router

theorem layer_layer (f g : Layer υ) (r : Router υ) :
    (r.layer f).layer g = r.layer fun next ↦ g (f next) := by
  simp only [layer, List.map_map]
  congr 1
  refine List.map_congr_left fun route _ ↦ ?_
  simp only [Function.comp_apply, MethodTable.layer_layer]

theorem layer_id (r : Router υ) : r.layer (fun next ↦ next) = r := by
  simp only [layer, MethodTable.layer_id, List.map_id']

def preferred : Option (Route υ) → Route υ → Option (Route υ)
  | none, route => some route
  | some best, route => if route.pattern.precedes best.pattern then some route else some best

theorem route?_eq (r : Router υ) (path : String) :
    r.route? path =
      (r.routes.filter fun route ↦ route.pattern.covers path.toList).foldl preferred none := by
  rw [route?]
  congr 1
  funext best route
  cases best <;> rfl

theorem preferred_eq_or (best : Option (Route υ)) (route : Route υ) :
    preferred best route = best ∨ preferred best route = some route := by
  cases best with
  | none => exact .inr rfl
  | some best =>
    rw [preferred]
    split
    · exact .inr rfl
    · exact .inl rfl

theorem foldl_preferred_mem {routes : List (Route υ)} {best : Option (Route υ)} {route : Route υ}
    (h : routes.foldl preferred best = some route) : best = some route ∨ route ∈ routes := by
  induction routes generalizing best with
  | nil => exact .inl h
  | cons a routes ih =>
    rcases ih h with hbest | hmem
    · rcases preferred_eq_or best a with heq | heq
      · exact .inl (heq ▸ hbest)
      · rw [heq] at hbest
        cases hbest
        exact .inr List.mem_cons_self
    · exact .inr (List.mem_cons_of_mem a hmem)

theorem isSome_foldl_preferred (routes : List (Route υ)) (best : Option (Route υ)) :
    (routes.foldl preferred best).isSome = (best.isSome || !routes.isEmpty) := by
  induction routes generalizing best with
  | nil => simp
  | cons a routes ih =>
    have hsome : (preferred best a).isSome = true := by
      rcases best with - | best
      · rfl
      · rw [preferred]
        split <;> rfl
    rw [List.foldl_cons, ih, hsome]
    simp

theorem mem_of_route? {r : Router υ} {path : String} {route : Route υ}
    (h : r.route? path = some route) :
    route ∈ r.routes ∧ route.pattern.covers path.toList = true := by
  rw [route?_eq] at h
  exact List.mem_filter.1 ((foldl_preferred_mem h).resolve_left (by simp))

theorem route?_eq_none_iff {r : Router υ} {path : String} :
    r.route? path = none ↔ ∀ route ∈ r.routes, route.pattern.covers path.toList = false := by
  rw [← Option.not_isSome_iff_eq_none, route?_eq, isSome_foldl_preferred]
  simp

theorem route?_rel {R : Route υ → Route υ → Prop} (hpattern : ∀ a b, R a b → a.pattern = b.pattern)
    {r s : Router υ} (h : List.Forall₂ R r.routes s.routes) (path : String) :
    Option.Rel R (r.route? path) (s.route? path) := by
  rw [route?_eq, route?_eq]
  refine List.rel_foldl ?_ .none (List.rel_filter ?_ h)
  · rintro _ _ (⟨hbest⟩ | _) a b hab
    · simp only [preferred, hpattern _ _ hab, hpattern _ _ hbest]
      split
      · exact .some hab
      · exact .some hbest
    · exact .some hab
  · intro a b hab
    simp only [hpattern _ _ hab]

theorem route?_layer (f : Layer υ) (r : Router υ) (path : String) :
    (r.layer f).route? path =
      (r.route? path).map fun route ↦ { route with endpoint := route.endpoint.layer f } := by
  have hroutes : List.Forall₂ (fun a b ↦ b = { a with endpoint := a.endpoint.layer f })
      r.routes (r.layer f).routes :=
    List.forall₂_map_right_iff.2 (List.forall₂_same.2 fun _ _ ↦ rfl)
  have hrel := route?_rel (by rintro a _ rfl; rfl) hroutes path
  generalize r.route? path = chosen, (r.layer f).route? path = chosen' at hrel ⊢
  cases hrel with
  | none => rfl
  | some h => exact congrArg some h

def patterns (r : Router υ) : List Route.Pattern := r.routes.map (·.pattern)

theorem merge?_eq (r other : Router υ) :
    r.merge? other =
      if (other.patterns.any fun b ↦ r.patterns.any fun a ↦ a.conflicts b) ||
        (r.ownFallback && other.ownFallback)
      then none
      else some { (if r.ownFallback then r else other) with routes := r.routes ++ other.routes } := by
  simp only [merge?, patterns, List.any_map, Function.comp_def]

theorem merge?_eq_some {r other merged : Router υ} :
    r.merge? other = some merged ↔
      (∀ b ∈ other.routes, ∀ a ∈ r.routes, a.pattern.conflicts b.pattern = false) ∧
        (r.ownFallback && other.ownFallback) = false ∧
        merged = { (if r.ownFallback then r else other) with routes := r.routes ++ other.routes } := by
  have hapart : (other.routes.any fun b ↦ r.routes.any fun a ↦ a.pattern.conflicts b.pattern) = false ↔
      ∀ b ∈ other.routes, ∀ a ∈ r.routes, a.pattern.conflicts b.pattern = false := by
    simp only [List.any_eq_false, Bool.not_eq_true]
  rw [merge?, ← hapart]
  cases other.routes.any fun b ↦ r.routes.any fun a ↦ a.pattern.conflicts b.pattern with
  | true => simp
  | false =>
    cases r.ownFallback && other.ownFallback with
    | true => simp
    | false =>
      simp only [Bool.or_false, Bool.false_eq_true, if_false, Option.some.injEq, true_and]
      exact eq_comm

theorem handle_of_route? {r : Router υ} {req : Request} {route : Route υ}
    (h : r.route? req.path = some route) :
    r.handle req = route.endpoint.handle req := by
  rw [handle, h]

theorem handle_of_route?_eq_none {r : Router υ} {req : Request} (h : r.route? req.path = none) :
    r.handle req = r.fallback req := by
  rw [handle, h]

theorem handle_layer_of_route? (f : Layer υ) {r : Router υ} {req : Request} {route : Route υ}
    (h : r.route? req.path = some route) :
    (r.layer f).handle req = (do
      return route.endpoint.finish (route.endpoint.serves req.method) req.method
        (← f (route.endpoint.answering req.method) req)) := by
  have hlayer := route?_layer f r req.path
  rw [h] at hlayer
  have hmethods := route.endpoint.isSome_service?_layer f
  rw [handle_of_route? hlayer, MethodTable.handle_eq, MethodTable.answering_layer,
    MethodTable.serves_congr hmethods, MethodTable.finish_congr hmethods]

theorem handle_layer_of_route?_eq_none (f : Layer υ) {r : Router υ} {req : Request}
    (h : r.route? req.path = none) :
    (r.layer f).handle req = f r.fallback req := by
  have hlayer := route?_layer f r req.path
  rw [h] at hlayer
  rw [handle_of_route?_eq_none hlayer, layer]

end Router

/-- Two routes with one pattern and services for the same methods; the services may differ if the
pattern is exempt. -/
structure Route.AgreesOff (exempt : Route.Pattern → Prop) (a b : Route υ) : Prop where
  pattern : a.pattern = b.pattern
  methods : ∀ m, (a.endpoint.service? m).isSome = (b.endpoint.service? m).isSome
  endpoint : ¬ exempt a.pattern → a.endpoint = b.endpoint

/-- Two routers that differ at most in the services of routes with exempt patterns. -/
structure Router.AgreesOff (exempt : Route.Pattern → Prop) (r s : Router υ) : Prop where
  routes : List.Forall₂ (Route.AgreesOff exempt) r.routes s.routes
  fallback : r.fallback = s.fallback

/-- If a layer never calls the service of a request that an exempt route matches, exempt services
make no difference. -/
theorem Router.handle_layer_eq_of_agreesOff {f : Layer υ} {exempt : Route.Pattern → Prop}
    {r s : Router υ} (h : r.AgreesOff exempt s) {req : Request}
    (hf : ∀ π, exempt π → π.covers req.path.toList = true → ∀ next next', f next req = f next' req) :
    (r.layer f).handle req = (s.layer f).handle req := by
  have hrel := route?_rel (fun _ _ hab ↦ hab.pattern) h.routes req.path
  cases hr : r.route? req.path with
  | none =>
    cases hs : s.route? req.path with
    | none => rw [handle_layer_of_route?_eq_none f hr, handle_layer_of_route?_eq_none f hs, h.fallback]
    | some b =>
      rw [hr, hs] at hrel
      cases hrel
  | some a =>
    cases hs : s.route? req.path with
    | none =>
      rw [hr, hs] at hrel
      cases hrel
    | some b =>
      rw [hr, hs] at hrel
      cases hrel with
      | some hab =>
        rw [handle_layer_of_route? f hr, handle_layer_of_route? f hs,
          MethodTable.serves_congr hab.methods, MethodTable.finish_congr hab.methods]
        by_cases hexempt : exempt a.pattern
        · rw [hf _ hexempt (mem_of_route? hr).2 (a.endpoint.answering req.method)
            (b.endpoint.answering req.method)]
        · rw [hab.endpoint hexempt]

end FrontDoor.Http
