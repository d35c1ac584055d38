import FrontDoor.Proofs.Assembly.Mounting
import FrontDoor.Proofs.HookLayer
import FrontDoor.Proofs.Route.Prefix

namespace FrontDoor

variable {υ : Type}

def Hook.Refuses (h : Hook υ) : Prop :=
  ∀ (ctx : RequestContext) (payload : Payload) (w w' : World υ),
    (h.call ctx payload).outcome w ≠ (.ok (.ok ()), w')

theorem HooksRun.not_passed {ctx : RequestContext} {payload : Payload} {due : List (PlacedHook υ)}
    {x : PlacedHook υ} (hx : x ∈ due) (hrefuses : x.hook.Refuses) (w w' : World υ) :
    ¬ HooksRun ctx payload due w .passed w' := by
  rintro ⟨hr⟩
  obtain ⟨w₁, w₂, hpasses⟩ := hr.exists_step_of_mem hx
  exact hrefuses ctx payload w₁ w₂ hpasses

theorem HookRegistry.exists_mem_due {r : HookRegistry υ} {p : Phase} {id path method : String}
    {hook : Hook υ} (hmem : hook ∈ r.hooksOf p id) (haccepts : hook.accepts path method = true) :
    ∃ x ∈ r.due p path method, x.hook = hook := by
  rw [hooksOf, PhaseHooks.hooksOf] at hmem
  split at hmem
  · rename_i e he
    obtain ⟨i, hi⟩ := List.mem_iff_getElem?.1 hmem
    have hrow : (⟨e.pluginId, i, hook⟩ : PlacedHook υ) ∈ PlacedHook.row e.pluginId 0 e.hooks :=
      List.mem_map.2 ⟨(hook, i), List.mem_zipIdx_iff_getElem?.2 hi, rfl⟩
    have hplaced : (⟨e.pluginId, i, hook⟩ : PlacedHook υ) ∈ r.placed p :=
      List.mem_flatMap.2 ⟨e, List.mem_of_find?_eq_some he, hrow⟩
    exact ⟨_, List.mem_filter.2 ⟨hplaced, haccepts⟩, rfl⟩
  · cases hmem

namespace Http

variable {registry : HookRegistry υ} {req : Request}

def Barred (registry : HookRegistry υ) (req : Request) : Prop :=
  ∃ x ∈ registry.due .before req.path req.method, x.hook.Refuses

theorem runAround_eq_of_barred (h : Barred registry req) (ctx : RequestContext)
    (next next' : Service υ) :
    runAround registry ctx next req = runAround registry ctx next' req := by
  obtain ⟨x, hx, hrefuses⟩ := h
  funext w
  obtain ⟨o, w', hbefore⟩ := HooksRun.total ctx (payloadAt w (hookEntries ctx req))
    (registry.due .before req.path req.method) w
  have hnot : o ≠ .passed := by
    rintro rfl
    exact HooksRun.not_passed hx hrefuses w w' hbefore
  -- Without the service an exchange ends as the before-hooks do, and that is the same for both
  -- services.
  cases o with
  | passed => exact absurd rfl hnot
  | failed y fault =>
    exact (outcome_runAround (.rejected hbefore)).trans (outcome_runAround (.rejected hbefore)).symm
  | aborted reason =>
    exact (outcome_runAround (.abortedBefore hbefore)).trans
      (outcome_runAround (.abortedBefore hbefore)).symm

theorem hookLayer_eq_of_barred (h : Barred registry req) (seconds : Nat) (next next' : Service υ) :
    hookLayer registry seconds next req = hookLayer registry seconds next' req := by
  have hany : registry.hasHooks .before = true := by
    obtain ⟨x, hx, -⟩ := h
    exact HookRegistry.hasHooks_of_mem_due hx
  have hskip : (!registry.hasHooks .before && !registry.hasHooks .after) = false := by
    rw [hany]
    rfl
  rw [hookLayer, hookLayer, hskip]
  simp only [Bool.false_eq_true, if_false, runAround_eq_of_barred h _ next next']

def CoveredBy (scope : String) (π : Route.Pattern) : Prop :=
  ∃ path, Route.scopeCovers scope path = true ∧ Route.Pattern.parse? path = some π

theorem barred_of_coveredBy {scope id : String} {hook : Hook υ} {π : Route.Pattern}
    (hplain : Route.Plain scope.toList) (hstar : Route.trimSlashes scope ≠ "*")
    (hmem : hook ∈ registry.hooksOf .before id) (hmatcher : hook.matcher = .pathPrefix scope)
    (hrefuses : hook.Refuses) (hπ : CoveredBy scope π) (hcovers : π.covers req.path.toList = true) :
    Barred registry req := by
  obtain ⟨path, hscope, hparse⟩ := hπ
  have haccepts : hook.accepts req.path req.method = true := by
    rw [Hook.accepts, hmatcher]
    exact Route.accepts_of_covers hplain hstar hscope hparse hcovers req.method
  obtain ⟨x, hx, rfl⟩ := HookRegistry.exists_mem_due hmem haccepts
  exact ⟨x, hx, hrefuses⟩

/-- Let a before-hook guard the prefix of a scope and always fail. Then the assembled router does
not use what is mounted on the routes that the scope covers: whatever stood there in its place,
every request would be answered the same way. If middleware wraps, the route of each mounted path
holds the endpoint of the path and the middleware that covers it. -/
theorem assemble_guarded (m : Manager (host υ) υ) (server : Config.ServerConfig) (scope id : String)
    (hook : Hook υ) (hplain : Route.Plain scope.toList) (hstar : Route.trimSlashes scope ≠ "*")
    (hmem : hook ∈ m.hooks.hooksOf .before id) (hmatcher : hook.matcher = .pathPrefix scope)
    (hrefuses : hook.Refuses) :
    let layer := hookLayer m.hooks server.requestTimeoutSeconds
    (mountAll m.middleware m.table.entries {}).Yields (mounting m) ∧
    (assemble m server).Yields ((mounting m).router.layer layer) ∧
    (∀ other, (mounting m).router.AgreesOff (CoveredBy scope) other →
      ∀ req, ((mounting m).router.layer layer).handle req = (other.layer layer).handle req) ∧
    ∀ layerOf, Wraps layerOf m.middleware → (mounting m).Standing layerOf m.middleware m.table := by
  intro layer
  refine ⟨Mounting.yields_mountAll _ _ _, yields_assemble m server, fun other hother req ↦ ?_,
    fun layerOf hwraps ↦ ?_⟩
  · refine Router.handle_layer_eq_of_agreesOff hother fun π hπ hcovers next next' ↦ ?_
    exact hookLayer_eq_of_barred
      (barred_of_coveredBy hplain hstar hmem hmatcher hrefuses hπ hcovers) _ next next'
  · exact standing_mounting m hwraps

def bar (scope : String) : Hook Unit :=
  ⟨.pathPrefix scope, fun _ _ ↦ return .error (.app ⟨.authorization, "no entry", []⟩)⟩

theorem refuses_bar (scope : String) : (bar scope).Refuses := by
  intro ctx payload w w' h
  cases h

theorem assemble_guarded_admin :
    let m := teaManager "/admin" "/admin/x" (some ⟨[bar "/admin"], []⟩)
    let layer := hookLayer m.hooks 30
    Route.Plain "/admin".toList ∧ Route.trimSlashes "/admin" ≠ "*" ∧
    bar "/admin" ∈ m.hooks.hooksOf .before "tea" ∧
    (bar "/admin").matcher = .pathPrefix "/admin" ∧ (bar "/admin").Refuses ∧
    ∀ other, (mounting m).router.AgreesOff (CoveredBy "/admin") other →
      ∀ req, ((mounting m).router.layer layer).handle req = (other.layer layer).handle req := by
  intro m layer
  have hplain : Route.Plain "/admin".toList := by decide +kernel
  have hstar : Route.trimSlashes "/admin" ≠ "*" := by decide +kernel
  have hmem : bar "/admin" ∈ m.hooks.hooksOf .before "tea" := List.mem_cons_self
  refine ⟨hplain, hstar, hmem, rfl, refuses_bar _, ?_⟩
  exact (assemble_guarded m {} "/admin" "tea" (bar "/admin") hplain hstar hmem rfl
    (refuses_bar _)).2.2.1

/-- The guard does not keep requests away from middleware: one that no route matches enters the
middleware that covers the path mounted last, in spite of its scope. -/
theorem bar_passes_unrouted :
    let m := teaManager "/admin" "/admin/x" (some ⟨[bar "/admin"], []⟩)
    ∃ w router w',
      ((Manager.ofPlugins m.plugins).start {}).outcome (World.start ()) = (.ok (m, .ok ()), w) ∧
      bar "/admin" ∈ m.hooks.hooksOf .before "tea" ∧ (bar "/admin").Refuses ∧
      (assemble m {}).outcome w = (.ok router, w') ∧ "/admin/x" ∈ (mounting m).paths ∧
      Route.scopeCovers "/admin" "/admin/x" = true ∧
      teapot "/admin" ∈ covering m.middleware "/admin/x" ∧
      ((router.handle { method := "GET", path := "/nowhere" }).outcome (World.start ())).1 =
        .ok (.empty 418) := by
  intro m
  obtain ⟨w, hstart⟩ := start_teaPlugin "/admin" "/admin/x" (some ⟨[bar "/admin"], []⟩)
  obtain ⟨events, hassemble⟩ := yields_assemble m {} w
  refine ⟨w, _, _, hstart, List.mem_cons_self, refuses_bar _, hassemble, ?_, ?_,
    List.mem_cons_self, ?_⟩
  · decide +kernel
  · decide +kernel
  · decide +kernel

end Http

end FrontDoor
