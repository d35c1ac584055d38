import FrontDoor.Http.HookLayer
import FrontDoor.Proofs.Hooks.Execution
import FrontDoor.Proofs.Json.RoundTrip

namespace FrontDoor

variable {υ : Type}

namespace HookRegistry

theorem placed_eq_nil {r : HookRegistry υ} {p : Phase} (h : r.hasHooks p = false) :
    r.placed p = [] := by
  refine List.flatMap_eq_nil_iff.2 fun e he ↦ ?_
  have hempty : e.hooks = [] := by simpa using List.any_eq_false.1 h e he
  rw [hempty]
  rfl

theorem due_eq_nil {r : HookRegistry υ} {p : Phase} {path method : String} (h : r.hasHooks p = false) :
    r.due p path method = [] := by
  rw [due, placed_eq_nil h, List.filter_nil]

theorem hasHooks_of_mem_due {r : HookRegistry υ} {p : Phase} {path method : String} {x : PlacedHook υ}
    (hx : x ∈ r.due p path method) : r.hasHooks p = true := by
  by_contra hnone
  rw [due_eq_nil (Bool.eq_false_iff.2 hnone)] at hx
  exact List.not_mem_nil hx

end HookRegistry

theorem Payload.get?_insert (p : Payload) (key : String) (value : Json) (k : String) :
    (p.insert key value).get? k = if key = k then some value else p.get? k := Dict.get?_insert ..

theorem Payload.uuid?_of_get? {p : Payload} {key : String} {id : Uuid}
    (h : p.get? key = some (.text (toString id))) :
    p.uuid? key = some id := by
  rw [uuid?, text?, h, Option.bind_some, Json.text?, Option.bind_some]
  exact Uuid.parse?_toString id

namespace RequestContext

theorem outcome_new (w : World υ) :
    (new : Effect υ RequestContext).outcome w =
      (.ok ⟨World.identifier w.identifiers, ⟨[w.tokens]⟩, none⟩,
        { w with tokens := w.tokens + 1, identifiers := w.identifiers + 1 }) := rfl

theorem outcome_withTimeout {w : World υ} {nanos : Nat}
    (h : (w.clock + nanos) / 1000000000 ≤ lastSecond) (ctx : RequestContext) :
    (ctx.withTimeout nanos).outcome w = (.ok (ctx.withDeadline (w.clock + nanos)), w) := by
  rw [withTimeout, Effect.outcome_bind_of_ok (Effect.outcome_now w), if_neg (Nat.not_lt.2 h)]
  rfl

end RequestContext

namespace Http

/-- A timeout in seconds whose deadline the clock can name; a timeout of zero sets none. -/
def TimeoutFits (w : World υ) (seconds : Nat) : Prop :=
  seconds = 0 ∨ (w.clock + seconds * 1000000000) / 1000000000 ≤ RequestContext.lastSecond

def contextAt (w : World υ) (req : Request) (seconds : Nat) : RequestContext where
  requestId := (requestId? req).getD (World.identifier w.identifiers)
  token := ⟨[w.tokens]⟩
  deadline := if seconds = 0 then none else some (w.clock + seconds * 1000000000)

/-- The world once the context of a request is made. -/
def opened (w : World υ) : World υ :=
  { w with tokens := w.tokens + 2, identifiers := w.identifiers + 1 }

def payloadAt (w : World υ) (entries : List (String × Json)) : Payload :=
  entries.foldl (fun p e ↦ p.insert e.1 e.2) ⟨∅, none, w.wallClock⟩

def failureBody (kind message : String) : Json :=
  .object [("error", .text kind), ("message", .text message)]

theorem failureBody_keys : ["error", "message"].Pairwise (· < ·) := by decide +kernel

/-- The answer to a request whose hook failed: a categorized failure answers for itself, any other
one as a failure of the plugin. -/
def failureResponse (p : Phase) (x : PlacedHook υ) : Fault → Response
  | .app e => .json e.kind.status (failureBody e.kind.code e.message).write
  | .other message causes => .json 500
    (failureBody "PLUGIN"
      (PluginError.hookFailed x.pluginId p x.index (.other message causes)).text).write

/-- Whoever reads the response finds a status, a kind and a message, and nothing else. -/
structure Reports (response : Response) (status : Nat) (kind message : String) : Prop where
  status : response.status = status
  media : response.header? "content-type" = some "application/json"
  body : Json.parse response.body = .ok (.object [("error", .text kind), ("message", .text message)])

theorem reports_json (status : Nat) (kind message : String) :
    Reports (.json status (failureBody kind message).write) status kind message where
  status := rfl
  media := rfl
  body := by
    refine Json.parse_write (.object (List.pairwise_map.1 failureBody_keys) fun m hm ↦ ?_)
    rcases List.mem_pair.1 hm with rfl | rfl
    · exact .text kind
    · exact .text message

def answerNotes (e : AppError) : List Log.Event :=
  if 500 ≤ e.kind.status then
    [⟨.error, .errorResponse, "Request failed",
      [("kind", .text e.kind.code), ("error", .text e.message)]⟩]
  else []

def failureNotes (req : Request) (p : Phase) (x : PlacedHook υ) (fault : Fault) : List Log.Event :=
  let e := PluginError.hookFailed x.pluginId p x.index fault
  answerNotes e.toAppError ++ [⟨.warn, .hookLayer, rejectionMessage p,
    [("path", .text req.path), ("method", .text req.method), ("error", .text e.text)]⟩]

theorem toJson_errorBody (kind message : String) :
    (ErrorBody.mk kind message).toJson = failureBody kind message :=
  Json.ofMembers_of_perm (List.Perm.refl _) failureBody_keys

theorem errorResponse_hookFailed (p : Phase) (x : PlacedHook υ) (fault : Fault) :
    errorResponse (PluginError.hookFailed x.pluginId p x.index fault).toAppError =
      failureResponse p x fault := by
  rw [errorResponse, toJson_errorBody]
  cases fault <;> rfl

variable (registry : HookRegistry υ) (ctx : RequestContext) (next : Service υ) (req : Request)

/-- The hooks of a phase that accept the request are called, with a payload made of these entries. -/
def PhaseRun (p : Phase) (entries : List (String × Json)) (w : World υ) (o : HookOutcome υ)
    (w' : World υ) : Prop :=
  HooksRun ctx (payloadAt w entries) (registry.due p req.path req.method) w o w'

def statusEntries (response : Response) : List (String × Json) :=
  hookEntries ctx req ++ [("status", .int response.status)]

theorem payloadAt_concat (w : World υ) (entries : List (String × Json)) (e : String × Json) :
    payloadAt w (entries ++ [e]) = (payloadAt w entries).insert e.1 e.2 := List.foldl_concat ..

theorem get?_hookEntries (w : World υ) :
    (payloadAt w (hookEntries ctx req)).get? "request_id" = some (.text (toString ctx.requestId)) :=
  (Payload.get?_insert ..).trans (if_pos rfl)

theorem uuid?_hookEntries (w : World υ) :
    (payloadAt w (hookEntries ctx req)).uuid? "request_id" = some ctx.requestId :=
  Payload.uuid?_of_get? (get?_hookEntries ctx req w)

theorem uuid?_statusEntries (response : Response) (w : World υ) :
    (payloadAt w (statusEntries ctx req response)).uuid? "request_id" = some ctx.requestId := by
  apply Payload.uuid?_of_get?
  rw [statusEntries, payloadAt_concat, Payload.get?_insert, if_neg (by simp)]
  exact get?_hookEntries ctx req w

/-- A request goes through before-hooks, service and after-hooks. The first part that does not
succeed is the last that is called; a hook that fails there decides the answer, and nothing but its
log events follows. -/
inductive Exchange (forwarded : Request) (w : World υ) : Except Abort Response → World υ → Prop
  | rejected {x : PlacedHook υ} {fault : Fault} {w₁ : World υ} :
      PhaseRun registry ctx req .before (hookEntries ctx req) w (.failed x fault) w₁ →
      Exchange forwarded w (.ok (failureResponse .before x fault))
        (w₁.logged (failureNotes req .before x fault))
  | abortedBefore {reason : Abort} {w₁ : World υ} :
      PhaseRun registry ctx req .before (hookEntries ctx req) w (.aborted reason) w₁ →
      Exchange forwarded w (.error reason) w₁
  | abortedService {reason : Abort} {w₁ w₂ : World υ} :
      PhaseRun registry ctx req .before (hookEntries ctx req) w .passed w₁ →
      (next forwarded).outcome w₁ = (.error reason, w₂) →
      Exchange forwarded w (.error reason) w₂
  | served {response : Response} {w₁ w₂ w₃ : World υ} :
      PhaseRun registry ctx req .before (hookEntries ctx req) w .passed w₁ →
      (next forwarded).outcome w₁ = (.ok response, w₂) →
      PhaseRun registry ctx req .after (statusEntries ctx req response) w₂ .passed w₃ →
      Exchange forwarded w (.ok response) w₃
  | replaced {response : Response} {x : PlacedHook υ} {fault : Fault} {w₁ w₂ w₃ : World υ} :
      PhaseRun registry ctx req .before (hookEntries ctx req) w .passed w₁ →
      (next forwarded).outcome w₁ = (.ok response, w₂) →
      PhaseRun registry ctx req .after (statusEntries ctx req response) w₂ (.failed x fault) w₃ →
      Exchange forwarded w (.ok (failureResponse .after x fault))
        (w₃.logged (failureNotes req .after x fault))
  | abortedAfter {response : Response} {reason : Abort} {w₁ w₂ w₃ : World υ} :
      PhaseRun registry ctx req .before (hookEntries ctx req) w .passed w₁ →
      (next forwarded).outcome w₁ = (.ok response, w₂) →
      PhaseRun registry ctx req .after (statusEntries ctx req response) w₂ (.aborted reason) w₃ →
      Exchange forwarded w (.error reason) w₃

theorem Exchange.total (forwarded : Request) (w : World υ) :
    ∃ result w', Exchange registry ctx next req forwarded w result w' := by
  obtain ⟨o, w₁, hbefore⟩ := HooksRun.total ctx (payloadAt w (hookEntries ctx req))
    (registry.due .before req.path req.method) w
  cases o with
  | failed x fault => exact ⟨_, _, .rejected hbefore⟩
  | aborted reason => exact ⟨_, _, .abortedBefore hbefore⟩
  | passed =>
    rcases hnext : (next forwarded).outcome w₁ with ⟨reason | response, w₂⟩
    · exact ⟨_, _, .abortedService hbefore hnext⟩
    · obtain ⟨o, w₃, hafter⟩ := HooksRun.total ctx (payloadAt w₂ (statusEntries ctx req response))
        (registry.due .after req.path req.method) w₂
      cases o with
      | passed => exact ⟨_, _, .served hbefore hnext hafter⟩
      | failed x fault => exact ⟨_, _, .replaced hbefore hnext hafter⟩
      | aborted reason => exact ⟨_, _, .abortedAfter hbefore hnext hafter⟩

theorem outcome_contextFor {w : World υ} {seconds : Nat} (h : TimeoutFits w seconds) :
    (contextFor req ⟨[w.tokens]⟩ seconds).outcome { w with tokens := w.tokens + 1 } =
      (.ok (contextAt w req seconds), opened w) := by
  rw [contextFor, Effect.outcome_bind_of_ok (RequestContext.outcome_new _)]
  by_cases hzero : seconds = 0
  · cases hid : requestId? req <;> simp only [hzero, if_true, contextAt, hid] <;> rfl
  · have hlast : ((opened w).clock + seconds * 1000000000) / 1000000000 ≤ RequestContext.lastSecond :=
      h.resolve_left hzero
    cases hid : requestId? req with
    | none =>
      simp only [hzero, if_false, contextAt, hid]
      exact RequestContext.outcome_withTimeout hlast _
    | some id =>
      simp only [hzero, if_false, contextAt, hid]
      exact RequestContext.outcome_withTimeout hlast _

theorem outcome_ofEntries (entries : List (String × Json)) (w : World υ) :
    (Payload.ofEntries entries).outcome w = (.ok (payloadAt w entries), w) := rfl

theorem outcome_respondWith (e : AppError) (w : World υ) :
    (respondWith e).outcome w = (.ok (errorResponse e), w.logged (answerNotes e)) := by
  rw [respondWith, answerNotes]
  split
  · exact Effect.outcome_bind_of_ok (Effect.outcome_log ..) _
  · rfl

variable {registry ctx next req} {p : Phase} {entries : List (String × Json)} {w w' : World υ}

theorem outcome_runPhase_passed (h : PhaseRun registry ctx req p entries w .passed w') :
    (runPhase registry p ctx req entries).outcome w = (.ok none, w') := by
  rw [runPhase]
  cases hany : registry.hasHooks p with
  | false =>
    rw [PhaseRun, HookRegistry.due_eq_nil hany] at h
    cases h with
    | passed hr =>
      cases hr
      rfl
  | true =>
    rw [if_neg (by simp), Effect.outcome_bind_of_ok (outcome_ofEntries entries w)]
    exact Effect.outcome_bind_of_ok ((HookRegistry.outcome_execute ..).2 ⟨_, h, rfl⟩) _

theorem outcome_runPhase_failed {x : PlacedHook υ} {fault : Fault}
    (h : PhaseRun registry ctx req p entries w (.failed x fault) w') :
    (runPhase registry p ctx req entries).outcome w =
      (.ok (some (failureResponse p x fault)), w'.logged (failureNotes req p x fault)) := by
  have hany : registry.hasHooks p = true := HookRegistry.hasHooks_of_mem_due h.mem_of_failed
  have hexecute := (HookRegistry.outcome_execute ..).2 ⟨_, h, rfl⟩
  rw [runPhase, if_neg (by simp [hany]), Effect.outcome_bind_of_ok (outcome_ofEntries entries w),
    Effect.outcome_bind_of_ok hexecute]
  simp only
  rw [Effect.outcome_bind_of_ok (Effect.outcome_log ..),
    Effect.outcome_bind_of_ok (outcome_respondWith ..),
    errorResponse_hookFailed, World.logged_logged]
  rfl

theorem outcome_runPhase_aborted {reason : Abort}
    (h : PhaseRun registry ctx req p entries w (.aborted reason) w') :
    (runPhase registry p ctx req entries).outcome w = (.error reason, w') := by
  obtain ⟨x, hx⟩ := h.exists_mem_of_aborted
  have hany : registry.hasHooks p = true := HookRegistry.hasHooks_of_mem_due hx
  rw [runPhase, if_neg (by simp [hany]), Effect.outcome_bind_of_ok (outcome_ofEntries entries w)]
  exact Effect.outcome_bind_of_error ((HookRegistry.outcome_execute ..).2 ⟨_, h, rfl⟩) _

theorem outcome_runAround_of_answer {response : Response} {w₁ w₂ : World υ}
    (hbefore : PhaseRun registry ctx req .before (hookEntries ctx req) w .passed w₁)
    (hnext : (next { req with context := some ctx }).outcome w₁ = (.ok response, w₂)) :
    (runAround registry ctx next req).outcome w = (do
      if let some rejection ← runPhase registry .after ctx req (statusEntries ctx req response) then
        return rejection
      return response : Effect υ Response).outcome w₂ := by
  rw [runAround, Effect.outcome_bind_of_ok (outcome_runPhase_passed hbefore)]
  exact Effect.outcome_bind_of_ok hnext _

theorem outcome_runAround {result : Except Abort Response}
    (h : Exchange registry ctx next req { req with context := some ctx } w result w') :
    (runAround registry ctx next req).outcome w = (result, w') := by
  cases h with
  | rejected hbefore =>
    rw [runAround]
    exact Effect.outcome_bind_of_ok (outcome_runPhase_failed hbefore) _
  | abortedBefore hbefore =>
    rw [runAround]
    exact Effect.outcome_bind_of_error (outcome_runPhase_aborted hbefore) _
  | abortedService hbefore hnext =>
    rw [runAround, Effect.outcome_bind_of_ok (outcome_runPhase_passed hbefore)]
    exact Effect.outcome_bind_of_error hnext _
  | served hbefore hnext hafter =>
    rw [outcome_runAround_of_answer hbefore hnext]
    exact Effect.outcome_bind_of_ok (outcome_runPhase_passed hafter) _
  | replaced hbefore hnext hafter =>
    rw [outcome_runAround_of_answer hbefore hnext]
    exact Effect.outcome_bind_of_ok (outcome_runPhase_failed hafter) _
  | abortedAfter hbefore hnext hafter =>
    rw [outcome_runAround_of_answer hbefore hnext]
    exact Effect.outcome_bind_of_error (outcome_runPhase_aborted hafter) _

theorem PhaseRun.eq_passed {o : HookOutcome υ} (hnone : registry.hasHooks p = false)
    (h : PhaseRun registry ctx req p entries w o w') : o = .passed ∧ w' = w := by
  rw [PhaseRun, HookRegistry.due_eq_nil hnone] at h
  cases h with
  | passed hr =>
    cases hr
    exact ⟨rfl, rfl⟩
  | failed hd => simp at hd
  | aborted hd => simp at hd

theorem Exchange.outcome_service {forwarded : Request} {result : Except Abort Response}
    (hnone : ∀ p, registry.hasHooks p = false)
    (h : Exchange registry ctx next req forwarded w result w') :
    (next forwarded).outcome w = (result, w') := by
  cases h with
  | rejected hbefore => cases (hbefore.eq_passed (hnone _)).1
  | abortedBefore hbefore => cases (hbefore.eq_passed (hnone _)).1
  | abortedService hbefore hnext =>
    obtain ⟨_, rfl⟩ := hbefore.eq_passed (hnone _)
    exact hnext
  | served hbefore hnext hafter =>
    obtain ⟨_, rfl⟩ := hbefore.eq_passed (hnone _)
    obtain ⟨_, rfl⟩ := hafter.eq_passed (hnone _)
    exact hnext
  | replaced _ _ hafter => cases (hafter.eq_passed (hnone _)).1
  | abortedAfter _ _ hafter => cases (hafter.eq_passed (hnone _)).1

variable (registry next req) in
/-- A request meets the hook layer in a world. Without any hook it passes as it came; otherwise it
gets a context, whose token is cancelled at the end. -/
inductive Passage (seconds : Nat) (w : World υ) : Except Abort Response → World υ → Prop
  | untouched {result : Except Abort Response} {w' : World υ} :
      (∀ p, registry.hasHooks p = false) →
      Exchange registry (contextAt w req seconds) next req req w result w' →
      Passage seconds w result w'
  | hooked {result : Except Abort Response} {w' : World υ} {p : Phase} :
      registry.hasHooks p = true →
      Exchange registry (contextAt w req seconds) next req
        { req with context := some (contextAt w req seconds) } (opened w) result w' →
      Passage seconds w result (w'.cancel (contextAt w req seconds).token)

variable (registry next req) in
theorem Passage.total (seconds : Nat) (w : World υ) :
    ∃ result w', Passage registry next req seconds w result w' := by
  by_cases hany : ∃ p, registry.hasHooks p = true
  · obtain ⟨p, hp⟩ := hany
    obtain ⟨result, w', h⟩ := Exchange.total registry (contextAt w req seconds) next req
      { req with context := some (contextAt w req seconds) } (opened w)
    exact ⟨result, _, .hooked hp h⟩
  · obtain ⟨result, w', h⟩ := Exchange.total registry (contextAt w req seconds) next req req w
    exact ⟨result, w', .untouched (fun p ↦ Bool.eq_false_iff.2 fun hp ↦ hany ⟨p, hp⟩) h⟩

theorem outcome_hookLayer {seconds : Nat} {result : Except Abort Response}
    (hfits : TimeoutFits w seconds) (h : Passage registry next req seconds w result w') :
    (hookLayer registry seconds next req).outcome w = (result, w') := by
  rw [hookLayer]
  cases h with
  | untouched hnone h =>
    rw [hnone, hnone]
    exact h.outcome_service hnone
  | @hooked _ p hp h =>
    have hany : (!registry.hasHooks .before && !registry.hasHooks .after) = false := by
      cases p <;> simp [hp]
    rw [hany, if_neg Bool.false_ne_true, Effect.outcome_bind_of_ok (Effect.outcome_newToken w),
      Effect.outcome_cancelling, Effect.outcome_bind_of_ok (outcome_contextFor req hfits),
        outcome_runAround h]
    rfl

/-- With a timeout that fits, a request passes the hook layer in exactly one way: the before-hooks
that accept it up to the first failure, then the service once, then the after-hooks up to the first
failure; the answer is that of the service unless a hook fails. The answer to a failure reads as the
status, kind and message of a categorized failure, and else as a failure of the plugin with the text
of the failed hook. -/
theorem hookLayer_eq_iff (registry : HookRegistry υ) (seconds : Nat) (next : Service υ) (req : Request)
    (w w' : World υ) (result : Except Abort Response) (hfits : TimeoutFits w seconds) :
    ((hookLayer registry seconds next req).outcome w = (result, w') ↔
      Passage registry next req seconds w result w') ∧
    ∀ (p : Phase) (x : PlacedHook υ),
      (∀ e, Reports (failureResponse p x (.app e)) e.kind.status e.kind.code e.message) ∧
      ∀ message causes, Reports (failureResponse p x (.other message causes)) 500 "PLUGIN"
        (p.name ++ " hook #" ++ toString x.index ++ " of plugin '" ++ x.pluginId ++ "' failed: " ++
          message) := by
  refine ⟨⟨fun h ↦ ?_, outcome_hookLayer hfits⟩, fun p x ↦ ⟨fun e ↦ ?_, fun message causes ↦ ?_⟩⟩
  rotate_left
  · exact reports_json e.kind.status e.kind.code e.message
  · exact reports_json 500 "PLUGIN"
      (PluginError.hookFailed x.pluginId p x.index (.other message causes)).text
  obtain ⟨result₁, w₁, hpassage⟩ := Passage.total registry next req seconds w
  have heq := (outcome_hookLayer hfits hpassage).symm.trans h
  cases heq
  exact hpassage

theorem hookLayer_eq_iff_refusals :
    let refusal : Hook Unit :=
      ⟨.pathPrefix "/admin", fun _ _ ↦ return .error (.app ⟨.authorization, "no entry", []⟩)⟩
    let failing : Hook Unit := ⟨.all, fun _ _ ↦ return .error (.other "down" [])⟩
    let registry := (HookRegistry.empty.register "gate" (some ⟨[refusal], []⟩)).register "tail"
        (some ⟨[], [failing]⟩)
    let service : Service Unit := fun _ ↦ return .text 200 "in"
    let ask (path : String) : Request := { method := "GET", path }
    let passes (path : String) (response : Response) : Prop :=
      ∃ w, Passage registry service (ask path) 30 (World.start ()) (.ok response) w
    TimeoutFits (World.start ()) 30 ∧
      passes "/admin" (.json 403 "\x7b\"error\":\"AUTHORIZATION\",\"message\":\"no entry\"\x7d") ∧
      passes "/" (.json 500 ("\x7b\"error\":\"PLUGIN\"," ++
        "\"message\":\"after hook #0 of plugin 'tail' failed: down\"\x7d")) := by
  intro refusal failing registry service ask passes
  have hfits : TimeoutFits (World.start ()) 30 := .inr (by decide)
  have hpasses (path : String) (response : Response)
      (h : ((hookLayer registry 30 service (ask path)).outcome (World.start ())).1.toOption =
        some response) :
      passes path response := by
    generalize hrun : (hookLayer registry 30 service (ask path)).outcome (World.start ()) = run at h
    obtain ⟨result, w⟩ := run
    cases result with
    | error reason => cases h
    | ok answer =>
      cases h
      exact ⟨w, (hookLayer_eq_iff registry 30 service (ask path) _ w _ hfits).1.1 hrun⟩
  exact ⟨hfits, hpasses _ _ (by decide +kernel), hpasses _ _ (by decide +kernel)⟩

end Http

end FrontDoor
