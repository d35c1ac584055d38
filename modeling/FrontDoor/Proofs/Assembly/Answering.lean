import FrontDoor.Config.Load
import FrontDoor.Proofs.Frame.BuiltIn
import FrontDoor.Proofs.Frame.Requests

namespace FrontDoor

variable {υ α β : Type} {w w' : World υ}

namespace Effect

def Returns (body : Effect υ α) : Prop := ∀ w, ∃ a w', body.outcome w = (.ok a, w')

theorem returns_pure (a : α) : (pure a : Effect υ α).Returns := fun w ↦ ⟨a, w, rfl⟩

theorem Returns.ne_error {body : Effect υ α} (h : body.Returns) (e : Abort) :
    body.outcome w ≠ (.error e, w') := by
  intro he
  obtain ⟨a, w₁, ha⟩ := h w
  cases ha.symm.trans he

end Effect

def Hook.Returns (h : Hook υ) : Prop := ∀ ctx payload, (h.call ctx payload).Returns

theorem HooksRun.ne_aborted {ctx : RequestContext} {payload : Payload} {due : List (PlacedHook υ)}
    {o : HookOutcome υ} (h : HooksRun ctx payload due w o w') (hdue : ∀ x ∈ due, x.hook.Returns)
    (reason : Abort) : o ≠ .aborted reason := by
  rintro rfl
  cases h with
  | aborted hd _ ha =>
    subst hd
    exact (hdue _ (List.mem_append_right _ List.mem_cons_self) ctx payload).ne_error reason ha

namespace Http

def Service.Returns (service : Service υ) : Prop := ∀ req, (service req).Returns

structure MethodTable.Returns (t : MethodTable υ) : Prop where
  service : ∀ m service, t.service? m = some service → Service.Returns service
  otherwise : Service.Returns t.otherwise

structure Router.Returns (r : Router υ) : Prop where
  endpoint : ∀ route ∈ r.routes, route.endpoint.Returns
  fallback : Service.Returns r.fallback

/-- No endpoint, hook or middleware of a manager ever aborts; middleware may abort where what it
wraps does. -/
structure AllReturn (m : Manager (host υ) υ) : Prop where
  endpoints : ∀ path o, m.table.get? path = some o → o.endpoint.Returns
  hooks : ∀ p, ∀ x ∈ m.hooks.placed p, x.hook.Returns
  middleware : ∀ mw ∈ m.middleware, ∀ r, r.Returns → (applied mw r).Returns

theorem MethodTable.Returns.answering {t : MethodTable υ} (h : t.Returns) (method : String) :
    Service.Returns (t.answering method) := by
  rcases t.answering_cases method with hotherwise | ⟨m, hservice⟩
  · rw [hotherwise]
    exact h.otherwise
  · exact h.service m _ hservice

theorem MethodTable.returns_get {service : Service υ} (h : Service.Returns service) :
    (MethodTable.get service).Returns where
  service m service' hm := by
    rw [MethodTable.eq_of_service?_get hm]
    exact h
  otherwise := fun _ ↦ Effect.returns_pure _

theorem Router.Returns.serving {r : Router υ} (h : r.Returns) (req : Request) :
    Service.Returns (r.serving req) := by
  rw [Router.serving]
  cases hroute : r.route? req.path with
  | none => exact h.fallback
  | some route => exact (h.endpoint route (Router.mem_of_route? hroute).1).answering req.method

theorem Router.Returns.layer {f : Layer υ}
    (hf : ∀ next, Service.Returns next → Service.Returns (f next)) {r : Router υ} (h : r.Returns) :
    (r.layer f).Returns := by
  refine ⟨fun route hroute ↦ ?_, hf _ h.fallback⟩
  obtain ⟨inside, hinside, rfl⟩ := List.mem_map.1 hroute
  have hendpoint := h.endpoint inside hinside
  refine ⟨fun m service hservice ↦ ?_, hf _ hendpoint.otherwise⟩
  obtain ⟨bare, hbare, rfl⟩ := Option.map_eq_some_iff.1 hservice
  exact hf bare (hendpoint.service m bare hbare)

theorem Router.Returns.merge? {r other merged : Router υ} (h : r.Returns) (hother : other.Returns)
    (hmerge : r.merge? other = some merged) : merged.Returns := by
  obtain ⟨-, -, rfl⟩ := Router.merge?_eq_some.1 hmerge
  refine ⟨fun route hroute ↦ ?_, ?_⟩
  · rcases List.mem_append.1 hroute with hroute | hroute
    · exact h.endpoint route hroute
    · exact hother.endpoint route hroute
  · dsimp only
    cases r.ownFallback
    · exact hother.fallback
    · exact h.fallback

section

variable {middleware : List (Middleware (host υ))}

theorem returns_wrapped (hmiddleware : ∀ mw ∈ middleware, ∀ r, r.Returns → (applied mw r).Returns)
    (path : String) {r : Router υ} (h : r.Returns) : (wrapped path middleware r).Returns := by
  apply List.foldrRecOn _ _ h
  intro s hs mw hmw
  exact hmiddleware mw (List.mem_filter.1 hmw).1 s hs

theorem Mounting.returns_added
    (hmiddleware : ∀ mw ∈ middleware, ∀ r, r.Returns → (applied mw r).Returns) {m : Mounting υ}
    (h : m.router.Returns) (path : String) {endpoint : MethodTable υ}
    (hendpoint : endpoint.Returns) :
    (m.added middleware path endpoint).router.Returns := by
  rw [added]
  cases m.pattern? path with
  | none => exact h
  | some π =>
    have hsingle : (Router.single π endpoint).Returns := by
      refine ⟨fun route hroute ↦ ?_, fun _ ↦ Effect.returns_pure _⟩
      rw [List.mem_singleton.1 hroute]
      exact hendpoint
    dsimp only
    cases hmerge : m.router.merge? (wrapped path middleware (.single π endpoint)) with
    | none => exact h
    | some router => exact h.merge? (returns_wrapped hmiddleware path hsingle) hmerge

theorem Mounting.returns_mount
    (hmiddleware : ∀ mw ∈ middleware, ∀ r, r.Returns → (applied mw r).Returns) {m : Mounting υ}
    (h : m.router.Returns) {es : List (String × OwnedEndpoint (MethodTable υ))}
    (hes : ∀ e ∈ es, e.2.endpoint.Returns) : (m.mount middleware es).router.Returns := by
  apply List.foldlRecOn (motive := fun n : Mounting υ ↦ n.router.Returns) es _ h
  intro n hn e he
  exact returns_added hmiddleware hn e.1 (hes e he)

end

theorem AllReturn.mounting {m : Manager (host υ) υ} (h : AllReturn m) :
    (mounting m).router.Returns := by
  have hempty : (Router.empty : Router υ).Returns :=
    ⟨by rintro route ⟨⟩, fun _ ↦ Effect.returns_pure _⟩
  apply Mounting.returns_mount h.middleware hempty
  intro e he
  exact h.endpoints e.1 e.2 ((m.table.mem_entries_iff e.1 e.2).1 he)

section

variable {registry : HookRegistry υ} {seconds : Nat} {req forwarded : Request} {next : Service υ}

theorem Exchange.exists_response {ctx : RequestContext} {result : Except Abort Response}
    (h : Exchange registry ctx next req forwarded w result w')
    (hhooks : ∀ p, ∀ x ∈ registry.placed p, x.hook.Returns) (hnext : Service.Returns next) :
    ∃ response, result = .ok response := by
  have hphase {p : Phase} {entries : List (String × Json)} {v v' : World υ} {reason : Abort} :
      ¬ PhaseRun registry ctx req p entries v (.aborted reason) v' := by
    intro hrun
    exact HooksRun.ne_aborted hrun (fun x hx ↦ hhooks p x (mem_placed_of_mem_due hx)) reason rfl
  cases h with
  | rejected => exact ⟨_, rfl⟩
  | served => exact ⟨_, rfl⟩
  | replaced => exact ⟨_, rfl⟩
  | abortedBefore hbefore => exact absurd hbefore hphase
  | abortedService _ hserved => exact absurd hserved ((hnext forwarded).ne_error _)
  | abortedAfter _ _ hafter => exact absurd hafter hphase

theorem timeoutFits_iff : TimeoutFits w seconds ↔
    seconds = 0 ∨ w.clock / 1000000000 + seconds ≤ RequestContext.lastSecond := by
  rw [TimeoutFits, Nat.add_mul_div_right _ _ (by decide)]

/-- The hooks of a registry are never told of a deadline that the clock cannot name. -/
def Timely (registry : HookRegistry υ) (seconds : Nat) (w : World υ) : Prop :=
  (∀ p, registry.hasHooks p = false) ∨ TimeoutFits w seconds

theorem exists_outcome_of_timely (htimely : Timely registry seconds w)
    (hhooks : ∀ p, ∀ x ∈ registry.placed p, x.hook.Returns) (hnext : Service.Returns next) :
    ∃ response w', (hookLayer registry seconds next req).outcome w = (.ok response, w') := by
  rcases htimely with hnone | hfits
  · rw [hookLayer_eq_of_no_hooks hnone]
    exact hnext req w
  · obtain ⟨result, w', hpassage⟩ := Passage.total registry next req seconds w
    have houtcome := outcome_hookLayer hfits hpassage
    cases hpassage with
    | untouched _ h =>
      obtain ⟨response, rfl⟩ := h.exists_response hhooks hnext
      exact ⟨response, _, houtcome⟩
    | hooked _ h =>
      obtain ⟨response, rfl⟩ := h.exists_response hhooks hnext
      exact ⟨response, _, houtcome⟩

theorem outcome_hookLayer_of_not_timely (h : ¬ Timely registry seconds w) (next : Service υ)
    (req : Request) :
    (hookLayer registry seconds next req).outcome w =
      (.error .deadlineOverflow, (opened w).cancel ⟨[w.tokens]⟩) := by
  obtain ⟨hsome, hfits⟩ := not_or.1 h
  obtain ⟨p, hp⟩ := not_forall.1 hsome
  exact outcome_hookLayer_of_not_fits (by simpa using hp) hfits next req

end

/-- Let no endpoint, hook or middleware of a manager abort. Then the assembled router answers every
request that comes with no hooks about or while the clock can name its deadline. Any other request
aborts for its deadline before anything is called. -/
theorem handle_answers (m : Manager (host υ) υ) (server : Config.ServerConfig) (hm : AllReturn m) :
    ∃ router, (assemble m server).Yields router ∧ ∀ (req : Request) (w : World υ),
      (Timely m.hooks server.requestTimeoutSeconds w →
        ∃ response w', (router.handle req).outcome w = (.ok response, w')) ∧
      (¬ Timely m.hooks server.requestTimeoutSeconds w →
        (router.handle req).outcome w =
          (.error .deadlineOverflow, (opened w).cancel ⟨[w.tokens]⟩)) := by
  refine ⟨_, yields_assemble m server, fun req w ↦ ⟨fun htimely ↦ ?_, fun htimely ↦ ?_⟩⟩
  · rw [Router.handle_layer, Effect.outcome_map]
    have hresponse : ∃ response w',
        (hookLayer m.hooks server.requestTimeoutSeconds ((mounting m).router.serving req)
        req).outcome w = (.ok response, w') :=
          exists_outcome_of_timely htimely hm.hooks (hm.mounting.serving req)
    obtain ⟨response, w', h⟩ := hresponse
    rw [h]
    exact ⟨_, w', rfl⟩
  · rw [Router.handle_layer, Effect.outcome_map, outcome_hookLayer_of_not_timely htimely]
    rfl

def nod : Hook Unit := ⟨.all, fun _ _ ↦ return .ok ()⟩

theorem allReturn_tea (scope path : String) :
    AllReturn (teaManager scope path (some ⟨[nod], []⟩)) where
  endpoints path' o ho := by
    rw [(eq_of_get?_insert_empty ho).2]
    exact MethodTable.returns_get fun _ ↦ Effect.returns_pure _
  hooks p x hx := by
    cases p with
    | before =>
      rw [List.mem_singleton.1 hx]
      exact fun _ _ ↦ Effect.returns_pure _
    | after => cases hx
  middleware mw hmw r h := by
    rw [List.mem_singleton.1 hmw]
    exact h.layer fun _ _ _ ↦ Effect.returns_pure _

theorem handle_answers_tea :
    let m := teaManager "/tea" "/tea/pot" (some ⟨[nod], []⟩)
    AllReturn m ∧ Timely m.hooks 30 (World.start ()) ∧ ∃ router, (assemble m {}).Yields router ∧
      ∃ response w', (router.handle { method := "GET", path := "/tea/pot" }).outcome (World.start ()) =
        (.ok response, w') := by
  intro m
  have hm : AllReturn m := allReturn_tea "/tea" "/tea/pot"
  have htimely : Timely m.hooks 30 (World.start ()) := .inr (timeoutFits_iff.2 (.inr (by decide)))
  obtain ⟨router, hrouter, hanswers⟩ := handle_answers m {} hm
  exact ⟨hm, htimely, router, hrouter, (hanswers _ _).1 htimely⟩

theorem exists_ok_of_toOption {ε : Type} {result : Except ε α} {f : α → β} {b : β}
    (h : result.toOption.map f = some b) : ∃ a, result = .ok a ∧ f a = b := by
  cases result with
  | error e => cases h
  | ok a => exact ⟨a, rfl, Option.some.inj h⟩

/-- A configuration that is read without complaint, with which no request is answered once the clock
is past its first second. -/
theorem far_deadline_aborts :
    let m := teaManager "/tea" "/tea/pot" (some ⟨[nod], []⟩)
    ∃ config w router w',
      Config.AppConfig.fromToml "[server]\nrequest_timeout_seconds = 9223372036854775807\n" =
        .ok config ∧
      ((Manager.ofPlugins m.plugins).start config).outcome (World.start ()) = (.ok (m, .ok ()), w) ∧
      AllReturn m ∧
      (assemble m config.server).outcome w = (.ok router, w') ∧
      ∀ (req : Request) (v : World Unit), 1000000000 ≤ v.clock →
        ((router.handle req).outcome v).1 = .error .deadlineOverflow := by
  intro m
  have hread : (Config.AppConfig.fromToml
      "[server]\nrequest_timeout_seconds = 9223372036854775807\n").toOption.map
      (fun config ↦ config.server.requestTimeoutSeconds) = some 9223372036854775807 := by
        decide +kernel
  obtain ⟨config, haccepted, hseconds⟩ := exists_ok_of_toOption hread
  obtain ⟨w, hstart⟩ := start_teaPlugin "/tea" "/tea/pot" (some ⟨[nod], []⟩)
  have hm : AllReturn m := allReturn_tea "/tea" "/tea/pot"
  obtain ⟨router, hrouter, hanswers⟩ := handle_answers m config.server hm
  obtain ⟨events, hassemble⟩ := hrouter w
  refine ⟨config, w, router, _, haccepted, hstart, hm, hassemble, fun req v hv ↦ ?_⟩
  -- The timeout is the last second itself, so a clock past its first second is too late.
  have hclock : 1 ≤ v.clock / 1000000000 := (Nat.le_div_iff_mul_le (by decide)).2 hv
  have hlate : ¬ Timely m.hooks config.server.requestTimeoutSeconds v := by
    rintro (hnone | hfits)
    · cases hnone .before
    · rw [timeoutFits_iff, hseconds] at hfits
      have hlast : RequestContext.lastSecond = 9223372036854775807 := by decide
      omega
  rw [(hanswers req v).2 hlate]

end Http

end FrontDoor
