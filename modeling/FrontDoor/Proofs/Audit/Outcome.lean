import FrontDoor.Proofs.Audit.Recording
import FrontDoor.Proofs.Frame.Forwarding

namespace FrontDoor

variable {υ : Type}

theorem HooksRun.eq_passed {α : Type} {view : World υ → α} {ctx : RequestContext} {payload : Payload}
    {due : List (PlacedHook υ)} {o : HookOutcome υ} {w w' : World υ}
    (h : HooksRun ctx payload due w o w')
    (hdue : ∀ x ∈ due, x.hook.Succeeds view) : o = .passed := by
  have hcalled {called rest : List (PlacedHook υ)} {x : PlacedHook υ} (hd : due = called ++ x :: rest)
      (v : World υ) :
      ∃ v', (x.hook.call ctx payload).outcome v = (.ok (.ok ()), v') := by
    have hx : x ∈ due := hd ▸ List.mem_append_right called List.mem_cons_self
    obtain ⟨v', hsucceeds, -⟩ := hdue x hx ctx payload v
    exact ⟨v', hsucceeds⟩
  cases h with
  | passed => rfl
  | failed hd _ hf =>
    obtain ⟨v', hsucceeds⟩ := hcalled hd _
    cases hf.symm.trans hsucceeds
  | aborted hd _ ha =>
    obtain ⟨v', hsucceeds⟩ := hcalled hd _
    cases ha.symm.trans hsucceeds

namespace Audit

open Http Manager

variable {cell : Cell υ (Option Log)} {m : Manager (host υ) υ} {server : Config.ServerConfig}
  {earlier later : List (PlacedHook υ)} {x : PlacedHook υ} {capacity seconds : Nat} {next : Service υ}
  {req : Request}
  {response : Response} {w w₁ w' : World υ}

/-- The status that is answered to a request with a record. The record tells the status of the
service's answer; once it is entered, the hooks behind the audit hook decide what becomes of that
answer. -/
inductive Answered (cell : Cell υ (Option Log)) (later : List (PlacedHook υ)) (ctx : RequestContext)
    (req : Request) (record : Record) (w' : World υ) : Except Abort Nat → Prop
  | intro {response : Response} {o : HookOutcome υ} {u v v' : World υ} :
      record.status = (if response.status < 0x10000 then response.status else 0) → cell.Kept v w' →
      HooksRun ctx (payloadAt u (statusEntries ctx req response)) (accepting later req) v o v' →
      Answered cell later ctx req record w' ((o.answer response).map (·.status))

def answerTo (router : Router υ) (a : Arrival) (w : World υ) : Except Abort Response :=
  ((router.handle a.request).outcome (w.later a.idle)).1

/-- A request is handled and logged, and its answer goes with its record. -/
structure Told (cell : Cell υ (Option Log)) (capacity : Nat) (m : Manager (host υ) υ)
    (server : Config.ServerConfig) (earlier later : List (PlacedHook υ)) (router : Router υ)
    (k : Arrival × Option Record) (w w' : World υ) : Prop where
  logged : Logged cell capacity m server earlier (mounting m) router k w w'
  answered : ∀ record, k.2 = some record →
    Answered cell later
      (contextAt (w.later k.1.idle) k.1.request server.requestTimeoutSeconds) k.1.request record w'
      ((answerTo router k.1 w).map (·.status))

def Faithful (router : Router υ) (k : Arrival × Option Record) (w _w' : World υ) : Prop :=
  ∀ record, k.2 = some record → ∃ answer, answerTo router k.1 w = .ok answer ∧
    (answer.status < 0x10000 → record.status = answer.status)

theorem Audited.exists_answered (h : Audited cell m earlier x later)
    (hcompletes : Completes m.hooks earlier seconds next req w response w₁) :
    ∃ (o : HookOutcome υ) (w' : World υ),
      (hookLayer m.hooks seconds next req).outcome w = (o.answer response, w') ∧
      Answered cell later (contextAt w req seconds) req
        (recordFor (contextAt w req seconds) req response w₁.wallClock) w'
        ((o.answer response).map (·.status)) := by
  obtain ⟨hfits, w₂, u, hbefore, hserved, hr⟩ := hcompletes
  let ctx := contextAt w req seconds
  let payload := payloadAt u (statusEntries ctx req response)
  let record := recordFor ctx req response w₁.wallClock
  have hx : x.Passes ctx payload w₁ (appended cell record w₁) := by
    rw [PlacedHook.Passes, h.hook]
    exact outcome_recorder cell ctx req response u w₁
  obtain ⟨o, v', hlater⟩ := HooksRun.total ctx payload (accepting later req) (appended cell record w₁)
  have hafter : PhaseRun m.hooks ctx req .after (statusEntries ctx req response) u o v' := by
    rw [PhaseRun, h.due]
    exact .append hr (hlater.cons hx)
  obtain ⟨w', houtcome, hstore⟩ :=
    exists_outcome_of_answer (.hooked h.hasHooks hfits hbefore) hserved hafter
  have hkept : cell.Kept (appended cell record w₁) w' :=
    (congrArg cell.read hstore).trans (kept_of_hooksRun hlater (h.keeps_accepting req).2)
  have hstatus : record.status = if response.status < 0x10000 then response.status else 0 := rfl
  exact ⟨o, w', houtcome, .intro hstatus hkept hlater⟩

theorem Audited.told (h : Audited cell m earlier x later) {k : Arrival × Option Record}
    (hlogged : Logged cell capacity m server earlier (mounting m)
      ((mounting m).router.layer (hookLayer m.hooks server.requestTimeoutSeconds)) k w w') :
    Told cell capacity m server earlier later
      ((mounting m).router.layer (hookLayer m.hooks server.requestTimeoutSeconds)) k w w' := by
  refine ⟨hlogged, fun record hrecord ↦ ?_⟩
  have hentered := hlogged.entered
  rw [hrecord] at hentered
  cases hentered with
  | @record response v hcompletes =>
    obtain ⟨o, w₁, houtcome, hanswered⟩ := h.exists_answered hcompletes
    have hhandled := hlogged.handled
    rw [Handled, Router.handle_layer, Effect.outcome_map, houtcome] at hhandled
    have hleft : w₁ = w' := hhandled
    have hstatus : (answerTo
        ((mounting m).router.layer (hookLayer m.hooks server.requestTimeoutSeconds)) k.1 w).map
        (·.status) = (o.answer response).map (·.status) := by
      rw [answerTo, Router.handle_layer, Effect.outcome_map, houtcome]
      cases o.answer response with
      | error reason => rfl
      | ok answer => exact congrArg Except.ok (Router.status_finishing _ _ answer)
    rw [hstatus, ← hleft]
    exact hanswered

theorem Told.faithful {router : Router υ} {k : Arrival × Option Record}
    (h : Told cell capacity m server earlier later router k w w') {α : Type} {view : World υ → α}
    (hlater : ∀ y ∈ later, y.hook.Succeeds view) : Faithful router k w w' := by
  intro record hrecord
  have hanswered := h.answered record hrecord
  generalize hresult : (answerTo router k.1 w).map (·.status) = result at hanswered
  cases hanswered with
  | intro hstatus _ hrun =>
    obtain rfl := hrun.eq_passed fun y hy ↦ hlater y (List.mem_filter.1 hy).1
    cases hanswer : answerTo router k.1 w with
    | error reason =>
      rw [hanswer] at hresult
      cases hresult
    | ok answer =>
      rw [hanswer] at hresult
      have heq : answer.status = _ := Except.ok.inj hresult
      refine ⟨answer, rfl, fun hbits ↦ ?_⟩
      rw [heq] at hbits
      rw [hstatus, if_pos hbits, heq]

/-- Let a manager of the audit plugin and of others that are foreign to its cell start, and let the
assembled router handle requests. Then each record tells the status of the service's answer, and the
client sees what the hooks behind the audit hook make of this answer. If these succeed, every record
tells the status that the client sees. -/
theorem records_tell (cell : Cell υ (Option Log)) (before after : PluginList (host υ) υ)
    (config : Config.AppConfig) (w w' : World υ) (m : Manager (host υ) υ)
    (server : Config.ServerConfig)
    (hforeign : ∀ p ∈ before ++ after, Foreign cell (Ignores cell) p)
    (hstart : ((ofPlugins (before ++ plugin cell :: after)).start config).outcome w =
      (.ok (m, .ok ()), w')) :
    ∃ settings earlier x later router, config.settings pluginId Settings.ofJson {} = .ok settings ∧
      cell.read w'.store = some (.ofRecords settings.capacity []) ∧ Audited cell m earlier x later ∧
      (assemble m server).Yields router ∧
      ∀ arrivals v v' records, cell.read v.store = some (.ofRecords settings.capacity records) →
        Runs (Handled router) arrivals v v' → ∃ ks : List (Arrival × Option Record),
          ks.map (·.1) = arrivals ∧
          Runs (Told cell settings.capacity m server earlier later router) ks v v' ∧
          ((∀ y ∈ later, y.hook.Succeeds fun _ ↦ ()) → Runs (Faithful router) ks v v') := by
  obtain ⟨settings, earlier, x, later, hsettings, hcapacity, hread, haudited⟩ :=
    exists_audited_of_start hforeign hstart
  refine ⟨settings, earlier, x, later, _, hsettings, hread, haudited, yields_assemble m server, ?_⟩
  intro arrivals v v' records hlog hhandled
  obtain ⟨ks, hks, hlogged, -⟩ :=
    (haudited.logsOnce hcapacity server).run arrivals v v' records hlog hhandled
  have htold := hlogged.imp fun _ _ _ ↦ haudited.told
  exact ⟨ks, hks, htold, fun hlater ↦ htold.imp fun _ _ _ hk ↦ hk.faithful hlater⟩

theorem passing_ne_recorder : passing ≠ recorder Server.auditCell := by
  intro h
  -- The recorder has nothing to record in an empty payload.
  let w : World Server.Memory := World.start {}
  let call (hook : Hook Server.Memory) : Except Abort (Except Fault Unit) :=
    ((hook.call (contextAt w { method := "GET", path := "/" } 0) (payloadAt w [])).outcome w).1
  have hcall : (.ok (.ok ()) : Except Abort (Except Fault Unit)) =
      .ok (.error (.app ⟨.validation, "audit hook: 'path' missing from payload", []⟩)) :=
        congrArg call h
  cases hcall

theorem later_watched {earlier later : List (PlacedHook Server.Memory)} {x : PlacedHook Server.Memory}
    (h : Audited Server.auditCell watchedManager earlier x later) :
    later.map (·.hook) = [passing] := by
  have hplaced : [recorder Server.auditCell, passing] =
      earlier.map (·.hook) ++ x.hook :: later.map (·.hook) := by
    rw [← List.map_cons, ← List.map_append, ← h.placed]
    rfl
  rw [h.hook] at hplaced
  cases earlier with
  | nil => exact (List.cons.inj hplaced).2.symm
  | cons y earlier =>
    obtain ⟨-, hrest⟩ := List.cons.inj hplaced
    cases earlier with
    | nil => exact absurd (List.cons.inj hrest).1 passing_ne_recorder
    | cons z earlier =>
      obtain ⟨-, hnil⟩ := List.cons.inj hrest
      cases (List.append_eq_nil_iff.1 hnil.symm).2

theorem records_tell_watched :
    let cell := Server.auditCell
    let req : Request := { method := "GET", path := "/nowhere" }
    (∀ p ∈ [RateLimit.plugin Server.limiterCell] ++ [observer], Foreign cell (Ignores cell) p) ∧
    ∃ w earlier x later router,
      ((ofPlugins watched).start {}).outcome (World.start {}) = (.ok (watchedManager, .ok ()), w) ∧
      Audited cell watchedManager earlier x later ∧ later.map (·.hook) = [passing] ∧
      (assemble watchedManager {}).Yields router ∧
      (∀ arrivals v v' records, cell.read v.store = some (.ofRecords 256 records) →
        Runs (Handled router) arrivals v v' →
        ∃ ks : List (Arrival × Option Record), ks.map (·.1) = arrivals ∧
          Runs (Faithful router) ks v v') ∧
      ∃ w' answer v, (assemble watchedManager {}).outcome w = (.ok router, w') ∧
        (router.handle req).outcome w' = (.ok answer, v) ∧ answer.status = 404 ∧
        (cell.read v.store).map (fun log ↦ log.entries.map (·.status)) = some [404] := by
  intro cell req
  obtain ⟨w, hstart⟩ := start_watched
  obtain ⟨settings, earlier, x, later, router, hsettings, hread, haudited, hrouter, htells⟩ :=
    records_tell cell [RateLimit.plugin Server.limiterCell] [observer] {}
      (World.start {}) w watchedManager {} foreign_beside_audit hstart
  have hlater := later_watched haudited
  have hsucceeds : ∀ y ∈ later, y.hook.Succeeds fun _ ↦ () := by
    intro y hy
    have hpassing : y.hook = passing := List.mem_singleton.1 (hlater ▸ List.mem_map_of_mem hy)
    rw [hpassing]
    exact fun _ _ w ↦ ⟨w, rfl, rfl⟩
  have hcapacity : settings.capacity = 256 := by
    cases hsettings
    rfl
  obtain ⟨events, hassemble⟩ := hrouter w
  refine ⟨foreign_beside_audit, w, earlier, x, later, router, hstart, haudited, hlater, hrouter,
    ?_, ?_⟩
  · intro arrivals v v' records hlog hhandled
    obtain ⟨ks, hks, -, hfaithful⟩ := htells arrivals v v' records (hcapacity ▸ hlog) hhandled
    exact ⟨ks, hks, hfaithful hsucceeds⟩
  · have hanswer : ((exchange fun r ↦ r.handle req).outcome (World.start {})).1.toOption.map
        (·.status) = some 404 := by
      decide +kernel
    have hlog : (cell.read ((exchange fun r ↦ r.handle req).outcome (World.start {})).2.store).map
        (fun log ↦ log.entries.map (·.status)) = some [404] := by decide +kernel
    rw [outcome_exchange hstart hassemble] at hanswer hlog
    rcases houtcome : (router.handle req).outcome (w.logged events) with ⟨_ | answer, v⟩
    · rw [houtcome] at hanswer
      cases hanswer
    · rw [houtcome] at hanswer hlog
      exact ⟨_, answer, v, hassemble, houtcome, Option.some.inj hanswer, hlog⟩

def downPlugin : Plugin (host Server.Memory) Server.Memory :=
  AssembledPlugin.toPlugin
    { id := "down", hooks := some { after := [⟨.all, fun _ _ ↦ return .error (.other "down" [])⟩] } }

/-- A hook behind the audit hook replaces an answer: the client sees a failure, and the log tells a
success. -/
theorem replaced_answer_untold :
    let exchange : Effect Server.Memory Response := do
      let (m, .ok _) ← (ofPlugins [plugin Server.auditCell, downPlugin]).start {} | return .empty 0
      (← assemble m {}).handle { method := "GET", path := recentPath }
    let (result, w) := exchange.outcome (World.start {})
    result.toOption.map (·.status) = some 500 ∧
    (Server.auditCell.read w.store).map (fun log ↦ log.entries.map (·.status)) = some [200] := by
  decide +kernel

end Audit

end FrontDoor
