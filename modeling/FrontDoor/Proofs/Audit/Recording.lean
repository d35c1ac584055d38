import FrontDoor.Proofs.Audit.Listing
import FrontDoor.Proofs.Frame.Agreement
import FrontDoor.Proofs.Frame.BuiltIn
import FrontDoor.Proofs.RequestId

namespace FrontDoor

variable {υ : Type}

namespace HooksRun

variable {ctx : RequestContext} {payload : Payload} {xs ys : List (PlacedHook υ)} {w w₁ w' : World υ}
  {o : HookOutcome υ}

theorem append (h : Runs (PlacedHook.Passes ctx payload) xs w w₁)
    (hrest : HooksRun ctx payload ys w₁ o w') :
    HooksRun ctx payload (xs ++ ys) w o w' := by
  induction h with
  | nil => exact hrest
  | cons hx _ ih => exact (ih hrest).cons hx

theorem append_of_ne_passed (h : HooksRun ctx payload xs w o w') (ho : o ≠ .passed)
    (ys : List (PlacedHook υ)) :
    HooksRun ctx payload (xs ++ ys) w o w' := by
  cases h with
  | passed => exact absurd rfl ho
  | failed hd hr hf => exact .failed (by rw [hd, List.append_assoc, List.cons_append]) hr hf
  | aborted hd hr ha => exact .aborted (by rw [hd, List.append_assoc, List.cons_append]) hr ha

end HooksRun

namespace Audit

open Http Manager Contribution

variable {cell : Cell υ (Option Log)} {log : Log} {w w₁ w₂ w₃ w' : World υ}

def appended (cell : Cell υ (Option Log)) (record : Record) (w : World υ) : World υ :=
  (cell.read w.store).elim w fun log ↦ cell.put (some (log.push record)) w

theorem outcome_append (cell : Cell υ (Option Log)) (record : Record) (w : World υ) :
    (append cell record).outcome w = (.ok (), appended cell record w) := by
  rw [append, appended, Effect.outcome_bind_of_ok (cell.outcome_get w)]
  cases cell.read w.store <;> rfl

theorem read_appended (h : cell.read w.store = some log) (record : Record) :
    cell.read (appended cell record w).store = some (log.push record) := by
  rw [appended, h]
  exact cell.read_put _ w

def recordFor (ctx : RequestContext) (req : Request) (response : Response)
    (timestamp : Time.Timestamp) :
    Record where
  method := req.method
  path := req.path
  -- A status is a number of sixteen bits.
  status := if response.status < 0x10000 then response.status else 0
  requestId := ctx.requestId
  timestamp := timestamp

theorem statusOf_eq {payload : Payload} {status : Nat}
    (h : payload.get? "status" = some (.int status)) :
    statusOf payload = if status < 0x10000 then status else 0 := by
  have hint : payload.int64? "status" = if (status : Int) < 0x8000000000000000 then some (status : Int)
      else none := by
    have hlow : (-0x8000000000000000 : Int) ≤ status := by omega
    rw [Payload.int64?, h, Option.bind_some, Json.int64?]
    simp only [hlow, true_and]
  rw [statusOf, hint]
  by_cases hbits : status < 0x10000
  · rw [if_pos (by omega), if_pos hbits]
    dsimp only
    rw [if_pos (by omega), Int.toNat_natCast]
  · rw [if_neg hbits]
    split
    · rename_i n hn
      have heq : n = status := by
        split at hn
        · exact (Option.some.inj hn).symm
        · cases hn
      rw [if_neg (by omega)]
    · rfl

theorem recordOf_statusEntries (ctx : RequestContext) (req : Request) (response : Response)
    (timestamp : Time.Timestamp) (w : World υ) :
    recordOf ctx (payloadAt w (statusEntries ctx req response)) timestamp =
      .ok (recordFor ctx req response timestamp) := by
  set payload := payloadAt w (statusEntries ctx req response) with hpayload
  have hget (key : String) : payload.get? key =
      if "status" = key then some (.int response.status)
      else if "request_id" = key then some (.text (toString ctx.requestId))
      else if "method" = key then some (.text req.method)
      else if "path" = key then some (.text req.path) else none := by
    have hdata : payload.data =
        ((((∅ : Dict Json).insert "path" (.text req.path)).insert "method" (.text req.method)).insert
        "request_id" (.text (toString ctx.requestId))).insert "status" (.int response.status) := rfl
    rw [Payload.get?, hdata]
    simp only [Dict.get?_insert]
    rfl
  have hpath : payload.text? "path" = some req.path := by
    rw [Payload.text?, hget]
    rfl
  have hmethod : payload.text? "method" = some req.method := by
    rw [Payload.text?, hget]
    rfl
  have hid : payload.uuid? "request_id" = some ctx.requestId := uuid?_statusEntries ctx req response w
  rw [recordOf, hpath, hmethod, hid, statusOf_eq ((hget "status").trans (if_pos rfl))]
  rfl

theorem outcome_recorder (cell : Cell υ (Option Log)) (ctx : RequestContext) (req : Request)
    (response : Response) (v w : World υ) :
    ((recorder cell).call ctx (payloadAt v (statusEntries ctx req response))).outcome w =
      (.ok (.ok ()), appended cell (recordFor ctx req response w.wallClock) w) := by
  change Effect.outcome (Effect.wallClock >>= _) w = _
  have hclock : (Effect.wallClock : Effect υ Time.Timestamp).outcome w = (.ok w.wallClock, w) := rfl
  rw [Effect.outcome_bind_of_ok hclock, recordOf_statusEntries]
  exact Effect.outcome_bind_of_ok (outcome_append cell _ w) _

/-- A manager with the audit hook at one place among its after-hooks, `earlier` before it and
`later` behind it. Nothing else touches the log's cell. -/
structure Audited (cell : Cell υ (Option Log)) (m : Manager (host υ) υ) (earlier : List (PlacedHook υ))
    (x : PlacedHook υ) (later : List (PlacedHook υ)) : Prop where
  placed : m.hooks.placed .after = earlier ++ x :: later
  hook : x.hook = recorder cell
  before : ∀ y ∈ m.hooks.placed .before, y.hook.Keeps cell
  after : ∀ y ∈ earlier ++ later, y.hook.Keeps cell
  recent : ∃ o, m.table.get? recentPath = some o ∧ o.endpoint = .get (recentService cell)
  endpoints : ∀ path o, m.table.get? path = some o → o.endpoint.Keeps cell
  middleware : ∀ mw ∈ m.middleware, Ignores cell mw

def withListing (m : Manager (host υ) υ) (log : Log) : Manager (host υ) υ :=
  { m with table := m.table.mapValues fun path o ↦
      if path = recentPath then { o with endpoint := .get (listing log) } else o }

def accepting (hooks : List (PlacedHook υ)) (req : Request) : List (PlacedHook υ) :=
  hooks.filter fun x ↦ x.hook.accepts req.path req.method

/-- A request gets to the audit hook, with this response and in this world: its before-hooks
succeed, the service answers, and the after-hooks before the audit hook succeed. -/
def Completes (registry : HookRegistry υ) (earlier : List (PlacedHook υ)) (seconds : Nat)
    (next : Service υ) (req : Request) (w : World υ) (response : Response) (w' : World υ) : Prop :=
  let ctx := contextAt w req seconds
  TimeoutFits w seconds ∧ ∃ w₁ w₂,
    PhaseRun registry ctx req .before (hookEntries ctx req) (opened w) .passed w₁ ∧
    (next { req with context := some ctx }).outcome w₁ = (.ok response, w₂) ∧
    Runs (PlacedHook.Passes ctx (payloadAt w₂ (statusEntries ctx req response)))
      (accepting earlier req) w₂ w'

/-- What a request enters into the log: its record if it gets to the audit hook, and else nothing. -/
inductive Entered (registry : HookRegistry υ) (earlier : List (PlacedHook υ)) (seconds : Nat)
    (next : Service υ) (req : Request) (w : World υ) : Option Record → Prop
  | record {response : Response} {w' : World υ} :
    Completes registry earlier seconds next req w response w' →
      Entered registry earlier seconds next req w
        (some (recordFor (contextAt w req seconds) req response w'.wallClock))
  | nothing : (¬ ∃ response w', Completes registry earlier seconds next req w response w') →
      Entered registry earlier seconds next req w none

theorem status_recordFor_lt (ctx : RequestContext) (req : Request) (response : Response)
    (timestamp : Time.Timestamp) :
    (recordFor ctx req response timestamp).status < 0x10000 := by
  rw [recordFor]
  dsimp only
  split
  · assumption
  · decide

namespace Entered

variable {registry : HookRegistry υ} {earlier : List (PlacedHook υ)} {seconds : Nat} {next : Service υ}
  {req : Request} {entry : Option Record}

theorem identified (h : Entered registry earlier seconds next req w entry) :
    ∀ record, entry = some record → Identifies req w record.requestId := by
  rintro record rfl
  cases h
  exact identifies_contextAt req w seconds

theorem bits (h : Entered registry earlier seconds next req w entry) :
    ∀ record, entry = some record → record.status < 0x10000 := by
  rintro record rfl
  cases h
  exact status_recordFor_lt ..

end Entered

section

variable {m : Manager (host υ) υ} {earlier later : List (PlacedHook υ)} {x : PlacedHook υ}
  {seconds : Nat} {next : Service υ} {req : Request} {response : Response}

namespace Audited

theorem hasHooks (h : Audited cell m earlier x later) : m.hooks.hasHooks .after = true := by
  by_contra hnone
  have hplaced := HookRegistry.placed_eq_nil (Bool.eq_false_iff.2 hnone)
  rw [h.placed] at hplaced
  cases (List.append_eq_nil_iff.1 hplaced).2

theorem due (h : Audited cell m earlier x later) (req : Request) :
    m.hooks.due .after req.path req.method = accepting earlier req ++ x :: accepting later req := by
  have hx : x.hook.accepts req.path req.method = true := by
    rw [h.hook]
    rfl
  rw [HookRegistry.due, h.placed, List.filter_append, List.filter_cons, if_pos hx]
  rfl

theorem keeps_accepting (h : Audited cell m earlier x later) (req : Request) :
    (∀ y ∈ accepting earlier req, y.hook.Keeps cell) ∧ ∀ y ∈ accepting later req, y.hook.Keeps cell :=
  ⟨fun y hy ↦ h.after y (List.mem_append_left _ (List.mem_filter.1 hy).1),
    fun y hy ↦ h.after y (List.mem_append_right _ (List.mem_filter.1 hy).1)⟩

theorem exists_afterRun_of_runs (h : Audited cell m earlier x later) (ctx : RequestContext)
    (v : World υ) (hlog : cell.read w.store = some log)
    (hr : Runs (PlacedHook.Passes ctx (payloadAt v (statusEntries ctx req response)))
      (accepting earlier req) w w₁) :
    ∃ o w', HooksRun ctx (payloadAt v (statusEntries ctx req response))
      (m.hooks.due .after req.path req.method) w o w' ∧
      cell.read w'.store = some (log.push (recordFor ctx req response w₁.wallClock)) := by
  obtain ⟨hearlier, hlater⟩ := h.keeps_accepting req
  have hread : cell.read w₁.store = some log := (kept_of_hooksRun (.passed hr) hearlier).read_eq hlog
  have hx : x.Passes ctx (payloadAt v (statusEntries ctx req response)) w₁
      (appended cell (recordFor ctx req response w₁.wallClock) w₁) := by
    rw [PlacedHook.Passes, h.hook]
    exact outcome_recorder cell ctx req response v w₁
  obtain ⟨o, w', hrest⟩ :=
    HooksRun.total ctx (payloadAt v (statusEntries ctx req response)) (accepting later req)
    (appended cell (recordFor ctx req response w₁.wallClock) w₁)
  rw [h.due]
  exact ⟨o, w', .append hr (hrest.cons hx),
    (kept_of_hooksRun hrest hlater).read_eq (read_appended hread _)⟩

theorem exists_afterRun_of_not_runs (h : Audited cell m earlier x later) (ctx : RequestContext)
    (payload : Payload) (hlog : cell.read w.store = some log)
    (hr : ¬ ∃ w₁, Runs (PlacedHook.Passes ctx payload) (accepting earlier req) w w₁) :
    ∃ o w', HooksRun ctx payload (m.hooks.due .after req.path req.method) w o w' ∧
      cell.read w'.store = some log := by
  obtain ⟨hearlier, -⟩ := h.keeps_accepting req
  obtain ⟨o, w', hrun⟩ := HooksRun.total ctx payload (accepting earlier req) w
  have hstopped : o ≠ .passed := by
    rintro rfl
    cases hrun with
    | passed hpassed => exact hr ⟨w', hpassed⟩
  rw [h.due]
  exact ⟨o, w', hrun.append_of_ne_passed hstopped _, (kept_of_hooksRun hrun hearlier).read_eq hlog⟩

theorem completes_iff (h : Audited cell m earlier x later) {forwarded : Request}
    (hadmits : Admits m.hooks seconds req w forwarded w₁) :
    Completes m.hooks earlier seconds next req w response w' ↔
      ∃ w₂, (next forwarded).outcome w₁ = (.ok response, w₂) ∧
        Runs (PlacedHook.Passes (contextAt w req seconds)
            (payloadAt w₂ (statusEntries (contextAt w req seconds) req response)))
          (accepting earlier req) w₂ w' := by
  constructor
  · rintro ⟨hfits, v, w₂, hrun, hserved, hr⟩
    obtain ⟨rfl, rfl⟩ := hadmits.deterministic (.hooked h.hasHooks hfits hrun)
    exact ⟨w₂, hserved, hr⟩
  · rintro ⟨w₂, hserved, hr⟩
    cases hadmits with
    | untouched hnone => cases (hnone .after).symm.trans h.hasHooks
    | hooked _ hfits hrun => exact ⟨hfits, w₁, w₂, hrun, hserved, hr⟩

theorem exists_entered_of_answer (h : Audited cell m earlier x later) {forwarded : Request}
    (hadmits : Admits m.hooks seconds req w forwarded w₁)
    (hserved : (next forwarded).outcome w₁ = (.ok response, w₂))
    (hlog : cell.read w₂.store = some log) :
    ∃ entry, Entered m.hooks earlier seconds next req w entry ∧
      cell.read ((hookLayer m.hooks seconds next req).outcome w).2.store =
        some (entry.elim log log.push) := by
  let ctx := contextAt w req seconds
  let payload := payloadAt w₂ (statusEntries ctx req response)
  by_cases hr : ∃ w₃, Runs (PlacedHook.Passes ctx payload) (accepting earlier req) w₂ w₃
  · obtain ⟨w₃, hr⟩ := hr
    obtain ⟨o, v, hrun, hentered⟩ := h.exists_afterRun_of_runs ctx w₂ hlog hr
    obtain ⟨w', houtcome, hstore⟩ := exists_outcome_of_answer hadmits hserved hrun
    refine ⟨_, .record ((h.completes_iff hadmits).2 ⟨w₂, hserved, hr⟩), ?_⟩
    rw [houtcome, hstore]
    exact hentered
  · obtain ⟨o, v, hrun, hleft⟩ := h.exists_afterRun_of_not_runs ctx payload hlog hr
    obtain ⟨w', houtcome, hstore⟩ := exists_outcome_of_answer hadmits hserved hrun
    refine ⟨none, .nothing ?_, ?_⟩
    · rintro ⟨response', v, hcompletes⟩
      obtain ⟨w₃, hok, hruns⟩ := (h.completes_iff hadmits).1 hcompletes
      -- The service answers in one way only, so these are the after-hooks that did not pass.
      obtain ⟨rfl, rfl⟩ := Effect.eq_of_outcomes hserved hok
      exact hr ⟨_, hruns⟩
    · rw [houtcome, hstore]
      exact hleft

theorem exists_entered (h : Audited cell m earlier x later) (seconds : Nat)
    (hnext : Service.Keeps cell next) (req : Request) (hlog : cell.read w.store = some log) :
    ∃ entry, Entered m.hooks earlier seconds next req w entry ∧
      cell.read ((hookLayer m.hooks seconds next req).outcome w).2.store =
        some (entry.elim log log.push) := by
  by_cases hadmits : ∃ forwarded w₁, Admits m.hooks seconds req w forwarded w₁
  · obtain ⟨forwarded, w₁, hadmits⟩ := hadmits
    have hread : cell.read w₁.store = some log := (kept_of_admits hadmits h.before).read_eq hlog
    rcases hserved : (next forwarded).outcome w₁ with ⟨reason | response, w₂⟩
    · obtain ⟨w', houtcome, hstore⟩ := exists_outcome_of_abort hadmits hserved
      refine ⟨none, .nothing ?_, ?_⟩
      · rintro ⟨response, v, hcompletes⟩
        obtain ⟨w₃, hok, -⟩ := (h.completes_iff hadmits).1 hcompletes
        cases hserved.symm.trans hok
      · rw [houtcome, hstore]
        exact ((hnext forwarded).kept hserved).read_eq hread
    · exact h.exists_entered_of_answer hadmits hserved (((hnext forwarded).kept hserved).read_eq hread)
  · obtain ⟨result, w', houtcome, hkept⟩ := exists_outcome_of_not_admits hadmits h.before
    refine ⟨none, .nothing ?_, ?_⟩
    · rintro ⟨response, v, hfits, w₁, w₂, hrun, -⟩
      exact hadmits ⟨_, w₁, .hooked h.hasHooks hfits hrun⟩
    · rw [houtcome]
      exact hkept.read_eq hlog

/-- While the log is this one, the listing can as well be fixed. -/
theorem agree_withListing (h : Audited cell m earlier x later) (log : Log) :
    (mounting m).router.Agree cell (some log) (mounting (withListing m log)).router := by
  refine (agree_mounting (m := m) (n := withListing m log) h.middleware rfl ?_).router
  refine List.forall₂_map_right_iff.2 (List.forall₂_same.2 fun e he ↦ ⟨rfl, ?_⟩)
  have hget : m.table.get? e.1 = some e.2 := (m.table.mem_entries_iff e.1 e.2).1 he
  dsimp only
  split
  · rename_i hpath
    obtain ⟨o, ho, hendpoint⟩ := h.recent
    obtain rfl : e.2 = o := Option.some.inj ((hpath ▸ hget).symm.trans ho)
    rw [hendpoint]
    refine MethodTable.agree_get fun req w hlog ↦ ⟨outcome_recentService hlog req, ?_⟩
    exact Cell.Kept.read_eq (keeps_recentService cell cell req w) hlog
  · exact MethodTable.agree_of_keeps (h.endpoints e.1 e.2 hget) (some log)

theorem keeps_serving (h : Audited cell m earlier x later) (req : Request) :
    Service.Keeps cell ((mounting m).router.serving req) := by
  intro req' w
  have hentries : List.Forall₂
      (fun e f ↦ e.1 = f.1 ∧ e.2.endpoint.Agree cell (cell.read w.store) f.2.endpoint)
      m.table.entries m.table.entries := by
    refine List.forall₂_same.2 fun e he ↦ ⟨rfl, MethodTable.agree_of_keeps ?_ _⟩
    exact h.endpoints e.1 e.2 ((m.table.mem_entries_iff e.1 e.2).1 he)
  have hagree := (agree_mounting (m := m) (n := m) h.middleware rfl hentries).router
  exact (hagree.serving req req' w rfl).2

end Audited

/-- A router handles a request that arrives; its log gets what the request enters, and what is
listed meanwhile is the log as it was before. -/
structure Logged (cell : Cell υ (Option Log)) (capacity : Nat) (m : Manager (host υ) υ)
    (server : Config.ServerConfig) (earlier : List (PlacedHook υ)) (mounted : Mounting υ)
    (router : Router υ) (k : Arrival × Option Record)
    (w w' : World υ) : Prop where
  handled : Handled router k.1 w w'
  entered : Entered m.hooks earlier server.requestTimeoutSeconds
    (mounted.router.serving k.1.request) k.1.request (w.later k.1.idle) k.2
  identified : ∀ record, k.2 = some record → Identifies k.1.request (w.later k.1.idle) record.requestId
  bits : ∀ record, k.2 = some record → record.status < 0x10000
  log : ∀ records, cell.read w.store = some (.ofRecords capacity records) →
    cell.read w'.store = some (.ofRecords capacity (records ++ k.2.toList))
  listed : ∀ records, cell.read w.store = some (.ofRecords capacity records) →
    ∃ lister, (assemble (withListing m (.ofRecords capacity records)) server).Yields lister ∧
      (router.handle k.1.request).outcome (w.later k.1.idle) =
        (lister.handle k.1.request).outcome (w.later k.1.idle)

structure LogsOnce (cell : Cell υ (Option Log)) (capacity : Nat) (m : Manager (host υ) υ)
    (server : Config.ServerConfig) (earlier : List (PlacedHook υ)) (x : PlacedHook υ)
    (later : List (PlacedHook υ)) (mounted : Mounting υ)
    (router : Router υ) : Prop where
  audited : Audited cell m earlier x later
  handle : ∀ req, router.handle req = (do
    return mounted.router.finishing req
      (← hookLayer m.hooks server.requestTimeoutSeconds (mounted.router.serving req) req))
  status : ∀ req response, (mounted.router.finishing req response).status = response.status
  passes : ∀ ctx req response (v w : World υ), ∃ w',
    x.Passes ctx (payloadAt v (statusEntries ctx req response)) w w'
  recent : ∀ records req n, Asks req n → ∀ w : World υ,
    let newest := records.reverse.take (min n capacity)
    let answer : Response := .json 200 (Json.list (newest.map told)).write
    (listing (.ofRecords capacity records) req).outcome w = (.ok answer, w) ∧
      (cell.read w.store = some (.ofRecords capacity records) →
        (recentService cell req).outcome w = (.ok answer, w)) ∧
      ((∀ r ∈ records, r.status < 0x10000) → Lists newest answer)
  asks : ∀ (req : Request) n, n < 0x10000000000000000 → req.query = some ("limit=" ++ toString n) →
    Asks req n
  run : ∀ arrivals w w' records, cell.read w.store = some (.ofRecords capacity records) →
    Runs (Handled router) arrivals w w' → ∃ ks : List (Arrival × Option Record),
      ks.map (·.1) = arrivals ∧
      Runs (Logged cell capacity m server earlier mounted router) ks w w' ∧
      cell.read w'.store = some (.ofRecords capacity (records ++ ks.flatMap (·.2.toList)))

theorem log_of_runs {capacity : Nat} {server : Config.ServerConfig} {mounted : Mounting υ}
    {router : Router υ} {ks : List (Arrival × Option Record)}
    (h : Runs (Logged cell capacity m server earlier mounted router) ks w w')
    {records : List Record} (hlog : cell.read w.store = some (.ofRecords capacity records)) :
    cell.read w'.store = some (.ofRecords capacity (records ++ ks.flatMap (·.2.toList))) := by
  induction h generalizing records with
  | nil =>
    rw [List.flatMap_nil, List.append_nil]
    exact hlog
  | cons hk _ ih =>
    rw [List.flatMap_cons, ← List.append_assoc]
    exact ih (hk.log records hlog)

namespace Audited

theorem exists_logged (h : Audited cell m earlier x later) {capacity : Nat} (hcapacity : 0 < capacity)
    (server : Config.ServerConfig) {records : List Record}
    (hlog : cell.read w.store = some (.ofRecords capacity records))
    (a : Arrival)
    (hhandled : Handled
      ((mounting m).router.layer (hookLayer m.hooks server.requestTimeoutSeconds)) a w w') :
    ∃ entry, Logged cell capacity m server earlier (mounting m)
      ((mounting m).router.layer (hookLayer m.hooks server.requestTimeoutSeconds))
        (a, entry) w w' := by
  have hlater : cell.Kept w (w.later a.idle) := rfl
  obtain ⟨entry, hentered, hread⟩ :=
    h.exists_entered server.requestTimeoutSeconds (h.keeps_serving a.request) a.request
    (hlater.read_eq hlog)
  refine ⟨entry, hhandled, hentered, hentered.identified, hentered.bits, fun records' hrecords ↦ ?_,
    fun records' hrecords ↦ ?_⟩
  · have heq : Log.ofRecords capacity records' = .ofRecords capacity records :=
      Option.some.inj (hrecords.symm.trans hlog)
    rw [Handled, Router.handle_layer, Effect.outcome_map] at hhandled
    rw [← hhandled]
    refine hread.trans (congrArg some ?_)
    rw [← heq]
    cases entry with
    | none => rw [Option.toList_none, List.append_nil, Option.elim_none]
    | some record => exact Log.push_ofRecords hcapacity records' record
  · refine ⟨_, yields_assemble (withListing m (.ofRecords capacity records')) server, ?_⟩
    exact outcome_handle_eq_of_agree (h.agree_withListing _) server.requestTimeoutSeconds h.before
      (hlater.read_eq hrecords)

theorem logsOnce (h : Audited cell m earlier x later) {capacity : Nat} (hcapacity : 0 < capacity)
    (server : Config.ServerConfig) :
    LogsOnce cell capacity m server earlier x later (mounting m)
      ((mounting m).router.layer (hookLayer m.hooks server.requestTimeoutSeconds)) where
  audited := h
  handle req := Router.handle_layer _ _ req
  status := Router.status_finishing _
  passes ctx req response v w := by
    have hpasses := outcome_recorder cell ctx req response v w
    rw [← h.hook] at hpasses
    exact ⟨_, hpasses⟩
  recent records req n hasks w := by
    intro newest answer
    have hlisting : (listing (.ofRecords capacity records) req).outcome w = (.ok answer, w) := by
      rw [listing_of_asks hasks]
      rfl
    refine ⟨hlisting, fun hlog ↦ (outcome_recentService hlog req).trans hlisting,
      fun hbits ↦ lists_json fun r hr ↦ ?_⟩
    exact hbits r (List.mem_reverse.1 (List.mem_of_mem_take hr))
  asks req n hn hquery := asks_limit hn hquery
  run arrivals w w' records hlog hruns := by
    have hstep (a : Arrival) (v v' : World υ)
        (hv : ∃ records, cell.read v.store = some (.ofRecords capacity records))
        (hhandled : Handled
          ((mounting m).router.layer (hookLayer m.hooks server.requestTimeoutSeconds)) a v v') :
        ∃ entry, Logged cell capacity m server earlier (mounting m)
          ((mounting m).router.layer (hookLayer m.hooks server.requestTimeoutSeconds))
            (a, entry) v v' ∧
          ∃ records, cell.read v'.store = some (.ofRecords capacity records) := by
      obtain ⟨records, hv⟩ := hv
      obtain ⟨entry, hlogged⟩ := h.exists_logged hcapacity server hv a hhandled
      exact ⟨entry, hlogged, _, hlogged.log records hv⟩
    obtain ⟨ks, hks, hlogged⟩ := hruns.exists_labelled hstep ⟨records, hlog⟩
    exact ⟨ks, hks, hlogged, log_of_runs hlogged hlog⟩

end Audited

end

theorem log_of_startPlugin {config : Config.AppConfig}
    (h : (startPlugin cell config).outcome w = (.ok (.ok ()), w')) :
    ∃ settings, config.settings pluginId Settings.ofJson {} = .ok settings ∧ 0 < settings.capacity ∧
      cell.read w'.store = some (.ofRecords settings.capacity []) := by
  rw [startPlugin] at h
  cases hsettings : config.settings pluginId Settings.ofJson {} with
  | error e =>
    rw [hsettings] at h
    cases h
  | ok settings =>
    rw [hsettings] at h
    dsimp only at h
    by_cases hzero : settings.capacity = 0
    · rw [if_pos hzero] at h
      cases h
    · have hcapacity : 0 < settings.capacity := Nat.pos_of_ne_zero hzero
      rw [if_neg hzero] at h
      cases hnew : Log.new settings.capacity with
      | error abort =>
        rw [hnew] at h
        cases h
      | ok log =>
        rw [hnew] at h
        dsimp only at h
        rw [pure_bind, Effect.outcome_bind_of_ok (cell.outcome_get w)] at h
        cases hread : cell.read w.store with
        | some _ =>
          rw [hread] at h
          cases h
        | none =>
          rw [hread] at h
          cases h
          exact ⟨settings, rfl, hcapacity,
            (cell.read_put _ w).trans (congrArg some (Log.eq_of_new hcapacity hnew))⟩

theorem exists_audited_of_hosts {m : Manager (host υ) υ} {own : Contribution (host υ) υ}
    (h : Hosts cell (Ignores cell) m own) (hendpoints : own.endpoints = recentEndpoints cell)
    (hhooks : own.hooks = some { after := [recorder cell] }) (hmiddleware : own.middleware = []) :
    ∃ earlier x later, Audited cell m earlier x later := by
  have hown (p : Phase) :
      own.registration.hooks p = HookBundle.phase { after := [recorder cell] } p := by
    rw [registration, Registration.hooks, hhooks]
  have hplace (p : Phase) := h.hooks p
  simp only [hown] at hplace
  -- Among the after-hooks the audit hook has one place, and those before and behind it are of the
  -- other plugins.
  obtain ⟨others, hperm, hothers⟩ := hplace .after
  obtain ⟨before, behind, heq, hsplit⟩ := exists_middle_of_perm hperm
  obtain ⟨earlier, rest, hplaced, rfl, hrest⟩ := List.map_eq_append_iff.1 heq
  obtain ⟨x, later, rfl, hx, rfl⟩ := List.map_eq_cons_iff.1 hrest
  refine ⟨earlier, x, later, hplaced, hx, fun y hy ↦ ?_, fun y hy ↦ ?_, ?_, fun path o ho ↦ ?_,
    fun mw hmw ↦ ?_⟩
  · obtain ⟨others, hperm, hothers⟩ := hplace .before
    exact hothers _ (hperm.mem_iff.1 (List.mem_map_of_mem hy))
  · refine hothers _ (hsplit.mem_iff.1 ?_)
    rw [← List.map_append]
    exact List.mem_map_of_mem hy
  · have hrecent : own.endpoints.get? recentPath = some (.get (recentService cell)) := by
      rw [hendpoints]
      exact (Dict.get?_insert ..).trans (if_pos rfl)
    exact h.own_endpoint _ _ hrecent
  · rcases h.endpoint path o ho with hkeeps | hget
    · exact hkeeps
    · rw [hendpoints] at hget
      rw [(eq_of_get?_insert_empty hget).2]
      exact MethodTable.keeps_get (keeps_recentService cell cell)
  · obtain ⟨others, hperm, hothers⟩ := h.middleware
    rw [hmiddleware] at hperm
    exact hothers mw (hperm.mem_iff.1 hmw)

theorem exists_audited_of_start {before after : PluginList (host υ) υ} {config : Config.AppConfig}
    {m : Manager (host υ) υ} (hforeign : ∀ p ∈ before ++ after, Foreign cell (Ignores cell) p)
    (hstart : ((ofPlugins (before ++ plugin cell :: after)).start config).outcome w =
      (.ok (m, .ok ()), w')) :
    ∃ settings earlier x later, config.settings pluginId Settings.ofJson {} = .ok settings ∧
      0 < settings.capacity ∧
      cell.read w'.store = some (.ofRecords settings.capacity []) ∧
      Audited cell m earlier x later := by
  obtain ⟨own, w₁, w₂, hown, ⟨hs, he, hb, hm⟩, -, hkept, hhosts⟩ := hosts_of_start hforeign hstart
  rw [hown] at hs he hb hm
  obtain ⟨settings, hsettings, hcapacity, hread⟩ := log_of_startPlugin hs
  obtain ⟨hendpoints, rfl⟩ := Effect.eq_of_outcomes (outcome_endpoints cell _) he
  obtain ⟨hhooks, rfl⟩ := Effect.eq_of_outcomes (outcome_hooks cell _) hb
  obtain ⟨hmiddleware, rfl⟩ := Effect.eq_of_outcome_pure hm
  rw [hread] at hendpoints hhooks
  obtain ⟨earlier, x, later, haudited⟩ :=
    exists_audited_of_hosts hhosts hendpoints.symm hhooks.symm hmiddleware.symm
  exact ⟨settings, earlier, x, later, hsettings, hcapacity, hkept.read_eq hread, haudited⟩

def passing : Hook Server.Memory := ⟨.all, fun _ _ ↦ return .ok ()⟩

def observer : Plugin (host Server.Memory) Server.Memory :=
  AssembledPlugin.toPlugin { id := "observer", hooks := some { after := [passing] } }

def watched : PluginList (host Server.Memory) Server.Memory :=
  [RateLimit.plugin Server.limiterCell] ++ plugin Server.auditCell :: [observer]

def watchedManager : Manager (host Server.Memory) Server.Memory where
  plugins := watched
  table := .ofList [(recentPath, ⟨pluginId, .get (recentService Server.auditCell)⟩),
    (RateLimit.statusPath, ⟨RateLimit.pluginId, .get (RateLimit.statusService Server.limiterCell)⟩)]
  hooks := (HookRegistry.empty.register pluginId
    (some { after := [recorder Server.auditCell] })).register
    "observer" (some { after := [passing] })
  middleware := [RateLimit.limiting Server.limiterCell {}]
  state := .initialized

theorem start_watched :
    ∃ w, ((ofPlugins watched).start {}).outcome (World.start {}) =
      (.ok (watchedManager, .ok ()), w) := by
  have hadopt : ∃ w,
      (adoptAll ({} : Config.AppConfig) watched (ofPlugins watched)).outcome (World.start {}) =
      (.ok ({ watchedManager with state := .uninitialized }, .ok ()), w) := ⟨_, rfl⟩
  obtain ⟨w, hadopt⟩ := hadopt
  exact exists_outcome_start hadopt (List.mergeSort_singleton _)

def exchange {α : Type} (f : Router Server.Memory → Effect Server.Memory α) :
    Effect Server.Memory α := do
  let (m, .ok _) ← (ofPlugins watched).start {} | throw .deadlineOverflow
  f (← assemble m {})

theorem outcome_exchange {α : Type} {w w' : World Server.Memory} {router : Router Server.Memory}
    (hstart : ((ofPlugins watched).start {}).outcome (World.start {}) =
      (.ok (watchedManager, .ok ()), w))
    (hassemble : (assemble watchedManager {}).outcome w = (.ok router, w'))
    (f : Router Server.Memory → Effect Server.Memory α) :
    (exchange f).outcome (World.start {}) = (f router).outcome w' :=
  (Effect.outcome_bind_of_ok hstart _).trans (Effect.outcome_bind_of_ok hassemble _)

theorem foreign_beside_audit : ∀ p ∈ [RateLimit.plugin Server.limiterCell] ++ [observer],
    Foreign Server.auditCell (Ignores Server.auditCell) p := by
  intro p hp
  rcases List.mem_pair.1 hp with rfl | rfl
  · exact (RateLimit.foreign_plugin Server.limiter_apart_audit).imp fun _ ↦ Intercepts.ignores
  · refine AssembledPlugin.foreign (fun _ ↦ Effect.keeps_pure _) (fun _ _ h ↦ by cases h)
      (fun phase hook h ↦ ?_) (by simp)
    cases phase with
    | before => cases h
    | after =>
      rw [List.mem_singleton.1 h]
      exact fun _ _ ↦ Effect.keeps_pure _

/-- Let a manager of the plugin and of others that are foreign to its cell start. Then its log is
empty, and the assembled router records requests: one whose before-hooks succeed, which the service
answers, and for which the after-hooks before the audit hook succeed enters one record of it, and
any other request none. A listing tells the newest records of the requests that were handled before.
-/
theorem logs_once (cell : Cell υ (Option Log)) (before after : PluginList (host υ) υ)
    (config : Config.AppConfig) (w w' : World υ) (m : Manager (host υ) υ)
    (server : Config.ServerConfig)
    (hforeign : ∀ p ∈ before ++ after, Foreign cell (Ignores cell) p)
    (hstart : ((ofPlugins (before ++ plugin cell :: after)).start config).outcome w =
      (.ok (m, .ok ()), w')) :
    ∃ settings earlier x later mounted router,
      config.settings pluginId Settings.ofJson {} = .ok settings ∧
      0 < settings.capacity ∧ cell.read w'.store = some (.ofRecords settings.capacity []) ∧
      (mountAll m.middleware m.table.entries {}).Yields mounted ∧ (assemble m server).Yields router ∧
      LogsOnce cell settings.capacity m server earlier x later mounted router := by
  obtain ⟨settings, earlier, x, later, hsettings, hcapacity, hread, haudited⟩ :=
    exists_audited_of_start hforeign hstart
  exact ⟨settings, earlier, x, later, mounting m, _, hsettings, hcapacity, hread,
    Mounting.yields_mountAll _ _ _, yields_assemble m server, haudited.logsOnce hcapacity server⟩

theorem logs_once_named_request :
    let cell := Server.auditCell
    let named : Request :=
      { method := "GET", path := "/nowhere",
        headers := [("x-request-id", "\x7b6BA7B810-9DAD-11D1-80B4-00C04FD430C8\x7d")] }
    let recent : Request := { method := "GET", path := recentPath, query := some "limit=1" }
    let listed := "[\x7b\"method\":\"GET\",\"path\":\"/nowhere\"," ++
      "\"request_id\":\"6ba7b810-9dad-11d1-80b4-00c04fd430c8\",\"status\":404," ++
      "\"timestamp\":\"2024-10-04T01:00:00Z\"\x7d]"
    (∀ p ∈ [RateLimit.plugin Server.limiterCell] ++ [observer], Foreign cell (Ignores cell) p) ∧
    ∃ m w router w' capacity earlier x later mounted,
      ((ofPlugins watched).start {}).outcome (World.start {}) = (.ok (m, .ok ()), w) ∧
      (assemble m {}).outcome w = (.ok router, w') ∧
      LogsOnce cell capacity m {} earlier x later mounted router ∧
      ∃ answer w₁ w₂, (router.handle named).outcome w' = (.ok (.empty 404), w₁) ∧
        (router.handle recent).outcome w₁ = (.ok answer, w₂) ∧ answer.body = listed := by
  intro cell named recent listed
  obtain ⟨w, hstart⟩ := start_watched
  obtain ⟨settings, earlier, x, later, mounted, router, -, -, -, -, hrouter, hlogs⟩ :=
    logs_once cell [RateLimit.plugin Server.limiterCell] [observer] {}
      (World.start {}) w watchedManager {} foreign_beside_audit hstart
  obtain ⟨events, hassemble⟩ := hrouter w
  refine ⟨foreign_beside_audit, _, w, router, _, settings.capacity, earlier, x, later, mounted, hstart,
    hassemble, hlogs, ?_⟩
  have hrun : ((exchange fun r ↦ do return (← r.handle named, ← r.handle recent)).outcome
      (World.start {})).1.toOption.map
      (fun r ↦ (r.1, r.2.body)) = some (.empty 404, listed) := by decide +kernel
  rw [outcome_exchange hstart hassemble] at hrun
  rcases houtcome : (do return (← router.handle named, ← router.handle recent) : Effect _ _).outcome
    (w.logged events) with ⟨_ | ⟨first, answer⟩, w₂⟩
  · rw [houtcome] at hrun
    cases hrun
  · rw [houtcome] at hrun
    obtain ⟨rfl, hbody⟩ := Prod.mk.inj (Option.some.inj hrun)
    obtain ⟨_, w₁, hnamed, hrest⟩ := Effect.outcome_bind_eq_ok.1 houtcome
    obtain ⟨_, _, hrecent, hpure⟩ := Effect.outcome_bind_eq_ok.1 hrest
    cases hpure
    exact ⟨answer, w₁, w₂, hnamed, hrecent, hbody⟩

end Audit

end FrontDoor
