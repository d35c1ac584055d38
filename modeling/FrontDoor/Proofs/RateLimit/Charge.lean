import FrontDoor.Proofs.Frame.Requests
import FrontDoor.Proofs.Json.RoundTrip
import FrontDoor.Proofs.RateLimit.Activation
import FrontDoor.Proofs.RateLimit.Run

namespace FrontDoor.RateLimit

open Http Manager Contribution

variable {υ : Type} {cell : Cell υ (Option Active)} {s : Settings} {bs : Buckets Float}
  {w w₁ w₂ w' : World υ}

/-- From one world to another exactly these calls are made of a limiter. -/
def Drawn (cell : Cell υ (Option Active)) (s : Settings) (calls : Schedule) (w w' : World υ) : Prop :=
  ∀ bs, cell.read w.store = some ⟨s, bs⟩ → cell.read w'.store = some ⟨s, bs.afterAll s.limits calls⟩

theorem Drawn.trans {earlier later : Schedule} (h : Drawn cell s earlier w w₁)
    (h' : Drawn cell s later w₁ w₂) :
    Drawn cell s (earlier ++ later) w w₂ := by
  intro bs hbs
  rw [Buckets.afterAll_append]
  exact h' _ (h bs hbs)

theorem drawn_of_kept (h : cell.Kept w w') : Drawn cell s [] w w' := fun _ hbs ↦ h.read_eq hbs

theorem Drawn.trans_kept {calls : Schedule} (h : Drawn cell s calls w w₁) (h' : cell.Kept w₁ w₂) :
    Drawn cell s calls w w₂ := fun bs hbs ↦ h'.read_eq (h bs hbs)

theorem Drawn.kept_trans {calls : Schedule} (h : cell.Kept w w₁) (h' : Drawn cell s calls w₁ w₂) :
    Drawn cell s calls w w₂ := fun bs hbs ↦ h' bs (h.read_eq hbs)

theorem outcome_check (h : cell.read w.store = some ⟨s, bs⟩) (key : String) :
    (check cell key).outcome w =
      (.ok (bs.check s.limits w.clock key).1,
        cell.put (some ⟨s, (bs.check s.limits w.clock key).2⟩) w) := by
  rw [check, Effect.outcome_bind_of_ok (cell.outcome_get w), h]
  rfl

theorem outcome_enforce (h : cell.read w.store = some ⟨s, bs⟩) (next : Service υ) (req : Request) :
    (enforce cell s.limits next req).outcome w =
      let (admitted, left) := bs.check s.limits w.clock (clientKey req)
      if admitted then (next req).outcome (cell.put (some ⟨s, left⟩) w)
      else (.ok (rejection s.limits), cell.put (some ⟨s, left⟩) w) := by
  rw [enforce, Effect.outcome_bind_of_ok (outcome_check h _)]
  dsimp only
  split <;> rfl

def told (r : BucketStatus Float) : Json :=
  .object [("key", .text r.key), ("max_tokens", .int r.maxTokens),
    ("refill_per_second", .ofFloat r.refillPerSecond), ("remaining", .int r.remaining)]

theorem told_keys : ["key", "max_tokens", "refill_per_second", "remaining"].Pairwise (· < ·) := by
  decide +kernel

theorem toJson_eq_told (r : BucketStatus Float) : r.toJson = told r :=
  Json.ofMembers_of_perm
    (((List.Perm.swap _ _ _).trans ((List.Perm.swap _ _ _).cons _)).cons _) told_keys

/-- Whoever reads the response finds a client, the limits of its bucket and what remains in it. -/
structure Tells (r : BucketStatus Float) (response : Response) : Prop where
  status : response.status = 200
  media : response.header? "content-type" = some "application/json"
  body : Json.parse response.body = .ok (told r)

theorem tells_json {r : BucketStatus Float} (hmax : r.maxTokens < 0x100000000)
    (hremaining : r.remaining < 0x100000000) (hrate : Json.Legible r.refillPerSecond) :
    Tells r (.json 200 (told r).write) where
  status := rfl
  media := rfl
  body := by
    refine Json.parse_write (.object (List.pairwise_map.1 told_keys) ?_)
    simp only [List.forall_mem_cons]
    exact ⟨.text _, .int (by omega) (by omega), Json.plain_ofFloat hrate _,
      .int (by omega) (by omega), by simp⟩

theorem remaining_status_lt (bs : Buckets Float) {l : Limits Float} (h : l.maxTokens < 0x100000000)
    (now : Nat) (key : String) : (bs.status l now key).1.remaining < 0x100000000 := by
  rw [Buckets.status]
  cases bs.byClient.get? key with
  | none => exact h
  | some bucket => exact UInt32.toNat_lt _

theorem tells_status (bs : Buckets Float) (hmax : s.maxTokens < 0x100000000)
    (hrate : Json.Legible s.refillPerSecond) (now : Nat) (key : String) :
    Tells (bs.status s.limits now key).1 (.json 200 (told (bs.status s.limits now key).1).write) := by
  have hlimits : (bs.status s.limits now key).1.maxTokens = s.maxTokens ∧
      (bs.status s.limits now key).1.refillPerSecond = s.refillPerSecond := by
    rw [Buckets.status]
    cases bs.byClient.get? key <;> exact ⟨rfl, rfl⟩
  exact tells_json (hlimits.1 ▸ hmax) (remaining_status_lt bs hmax now key) (hlimits.2 ▸ hrate)

theorem outcome_statusService (h : cell.read w.store = some ⟨s, bs⟩) (req : Request) :
    (statusService cell req).outcome w =
      let (report, left) := bs.status s.limits w.clock (clientKey req)
      (.ok (.json 200 (told report).write), cell.put (some ⟨s, left⟩) w) := by
  have hstatus : (status cell (clientKey req)).outcome w =
      (.ok (some (bs.status s.limits w.clock (clientKey req)).1),
        cell.put (some ⟨s, (bs.status s.limits w.clock (clientKey req)).2⟩) w) := by
    rw [status, Effect.outcome_bind_of_ok (cell.outcome_get w), h]
    rfl
  rw [statusService, Effect.outcome_bind_of_ok hstatus]
  dsimp only
  rw [toJson_eq_told]
  rfl

theorem status_rejection (limits : Limits Float) : (rejection limits).status = 429 := by
  rw [rejection]
  split <;> rfl

def Reports (calls : Schedule) : Prop := calls = [] ∨ ∃ t key, calls = [(t, .status key)]

def Reporting (cell : Cell υ (Option Active)) (s : Settings) (service : Service υ) : Prop :=
  ∀ req w bs, cell.read w.store = some ⟨s, bs⟩ →
    ∃ calls, Reports calls ∧ Drawn cell s calls w ((service req).outcome w).2

theorem reporting_of_keeps {service : Service υ} (h : Service.Keeps cell service) :
    Reporting cell s service :=
  fun req w _ _ ↦ ⟨[], .inl rfl, drawn_of_kept (h req w)⟩

theorem reporting_statusService : Reporting cell s (statusService cell) := by
  intro req w bs hbs
  refine ⟨[(w.clock, .status (clientKey req))], .inr ⟨_, _, rfl⟩, fun bs' hbs' ↦ ?_⟩
  rw [outcome_statusService hbs']
  exact cell.read_put _ w

theorem reporting_around {of : Middleware (host υ) → Interceptor υ} {ms : List (Middleware (host υ))}
    {service : Service υ} (hms : ∀ mw ∈ ms, (of mw).Keeps cell) (h : Reporting cell s service) :
    Reporting cell s (around (fun mw ↦ (of mw).layer) ms service) := by
  intro req w bs hbs
  by_cases hpassed : ∃ req' w₁, PassedOn of ms req w req' w₁
  · obtain ⟨req', w₁, hpassed⟩ := hpassed
    have hkept := kept_of_passedOn hpassed hms
    obtain ⟨calls, hreports, hdrawn⟩ := h req' w₁ bs (hkept.read_eq hbs)
    obtain ⟨result, w', houtcome, hback⟩ := exists_outcome_of_passedOn hpassed hms service
    rw [houtcome]
    exact ⟨calls, hreports, .kept_trans hkept (hdrawn.trans_kept hback)⟩
  · obtain ⟨result, w', houtcome, hkept⟩ := exists_outcome_of_not_passedOn hpassed hms
    rw [houtcome service]
    exact ⟨[], .inl rfl, drawn_of_kept hkept⟩

theorem drawn_enforce {next : Service υ} (h : Reporting cell s next) (req : Request)
    (hbs : cell.read w.store = some ⟨s, bs⟩) :
    ∃ reports, Reports reports ∧ Drawn cell s ((w.clock, .check (clientKey req)) :: reports) w
      ((enforce cell s.limits next req).outcome w).2 := by
  set left := (bs.check s.limits w.clock (clientKey req)).2 with hleft
  have hchecked : Drawn cell s [(w.clock, .check (clientKey req))] w
      (cell.put (some ⟨s, left⟩) w) := by
    intro bs' hbs'
    obtain rfl : bs = bs' := congrArg Active.buckets (Option.some.inj (hbs.symm.trans hbs'))
    exact cell.read_put _ w
  rw [outcome_enforce hbs]
  dsimp only
  split
  · obtain ⟨reports, hreports, hdrawn⟩ := h req (cell.put (some ⟨s, left⟩) w) left (cell.read_put _ w)
    exact ⟨reports, hreports, hchecked.trans hdrawn⟩
  · exact ⟨[], .inl rfl, hchecked⟩

/-- A manager whose middleware has the limiter at one place, with `outer` before it and `inner`
behind it. Nothing else touches the limiter's cell but the status service. -/
structure Limited (cell : Cell υ (Option Active)) (s : Settings) (m : Manager (host υ) υ)
    (outer inner : List (Middleware (host υ))) (of : Middleware (host υ) → Interceptor υ) : Prop where
  middleware : m.middleware = outer ++ limiting cell s :: inner
  wraps : ∀ mw ∈ outer ++ inner, ∀ r, applied mw r = r.layer (of mw).layer
  keeps : ∀ mw ∈ outer ++ inner, (of mw).Keeps cell
  hooks : ∀ p, ∀ x ∈ m.hooks.placed p, x.hook.Keeps cell
  status : ∃ o, m.table.get? statusPath = some o ∧ o.endpoint = .get (statusService cell)
  others : ∀ path o, m.table.get? path = some o → path ≠ statusPath → o.endpoint.Keeps cell

def InScope (s : Settings) (path? : Option String) : Prop :=
  ∃ path ∈ path?, Route.scopeCovers s.scope path = true

section

variable {m : Manager (host υ) υ} {outer inner : List (Middleware (host υ))}
  {of : Middleware (host υ) → Interceptor υ} {mounted : Mounting υ} {path? : Option String}
  {service : Service υ} {seconds : Nat} {req req' : Request}

/-- A request gets to the limiter in this form and finds this world there: it is in scope, the
before-hooks succeed, and all middleware before the limiter passes it on. -/
def Reaches (s : Settings) (m : Manager (host υ) υ) (outer : List (Middleware (host υ)))
    (of : Middleware (host υ) → Interceptor υ) (seconds : Nat) (path? : Option String) (req : Request)
    (w : World υ)
    (req' : Request) (w' : World υ) : Prop :=
  InScope s path? ∧ ∃ forwarded w₁, Admits m.hooks seconds req w forwarded w₁ ∧
    PassedOn of (onWay outer path?) forwarded w₁ req' w'

/-- The calls that a request makes of the limiter: one check if it gets there, of the client that it
has there, and at most one report. -/
inductive Charges (s : Settings) (m : Manager (host υ) υ) (outer : List (Middleware (host υ)))
    (of : Middleware (host υ) → Interceptor υ) (seconds : Nat) (mounted : Mounting υ) (req : Request)
    (w : World υ) :
    Schedule → Prop
  | charged {path? : Option String} {service : Service υ} {req' : Request} {w' : World υ}
    {reports : Schedule} :
      Destination m mounted req path? service → Reaches s m outer of seconds path? req w req' w' →
      Reports reports →
      Charges s m outer of seconds mounted req w ((w'.clock, .check (clientKey req')) :: reports)
  | uncharged {path? : Option String} {service : Service υ} {reports : Schedule} :
      Destination m mounted req path? service →
      (¬ ∃ req' w', Reaches s m outer of seconds path? req w req' w') →
      Reports reports → Charges s m outer of seconds mounted req w reports

theorem mem_of_mem_onWay {ms : List (Middleware (host υ))} {mw : Middleware (host υ)}
    (h : mw ∈ onWay ms path?) : mw ∈ ms := by
  cases path? with
  | none => cases h
  | some path => exact (List.mem_filter.1 h).1

theorem onWay_append (xs ys : List (Middleware (host υ))) (path? : Option String) :
    onWay (xs ++ ys) path? = onWay xs path? ++ onWay ys path? := by
  cases path? with
  | none => rfl
  | some path => exact List.filter_append ..

theorem onWay_cons_of_inScope (h : InScope s path?) (ms : List (Middleware (host υ))) :
    onWay (limiting cell s :: ms) path? = limiting cell s :: onWay ms path? := by
  obtain ⟨path, rfl, hcovers⟩ := h
  have hlimiting : Route.scopeCovers (limiting cell s).scope path = true := hcovers
  simp only [onWay, Option.elim_some, covering, List.filter_cons, hlimiting, if_true]

theorem onWay_cons_of_not_inScope (h : ¬ InScope s path?) (ms : List (Middleware (host υ))) :
    onWay (limiting cell s :: ms) path? = onWay ms path? := by
  cases path? with
  | none => rfl
  | some path =>
    have hlimiting : ¬ Route.scopeCovers (limiting cell s).scope path = true :=
      fun hcovers ↦ h ⟨path, rfl, hcovers⟩
    simp only [onWay, Option.elim_some, covering, List.filter_cons, hlimiting, Bool.false_eq_true,
      if_false]

namespace Limited

theorem wraps_layerIn (h : Limited cell s m outer inner of) : Wraps layerIn m.middleware := by
  intro mw hmw r
  rw [h.middleware] at hmw
  have hcases : mw = limiting cell s ∨ mw ∈ outer ++ inner := by
    simpa only [List.mem_append, List.mem_cons, or_left_comm] using hmw
  rcases hcases with rfl | hmem
  · have hlimiting (r : Router υ) :
        applied (limiting cell s) r = r.layer (enforce cell s.limits) := rfl
    rw [layerIn_eq hlimiting, hlimiting]
  · rw [layerIn_eq (h.wraps mw hmem), h.wraps mw hmem]

theorem around_others (h : Limited cell s m outer inner of) {ms : List (Middleware (host υ))}
    (hms : ∀ mw ∈ ms, mw ∈ outer ++ inner) : around layerIn ms = around (fun mw ↦ (of mw).layer) ms :=
  around_congr fun mw hmw ↦ layerIn_eq (h.wraps mw (hms mw hmw))

theorem around_onWay (h : Limited cell s m outer inner of) (path? : Option String)
    (service : Service υ) :
    (InScope s path? → around layerIn (onWay m.middleware path?) service =
      around (fun mw ↦ (of mw).layer) (onWay outer path?)
        (enforce cell s.limits (around (fun mw ↦ (of mw).layer) (onWay inner path?) service))) ∧
    (¬ InScope s path? → around layerIn (onWay m.middleware path?) service =
      around (fun mw ↦ (of mw).layer) (onWay outer path?)
        (around (fun mw ↦ (of mw).layer) (onWay inner path?) service)) := by
  have houter : around layerIn (onWay outer path?) =
      around (fun mw ↦ (of mw).layer) (onWay outer path?) :=
    h.around_others fun mw hmw ↦ List.mem_append_left _ (mem_of_mem_onWay hmw)
  have hinner : around layerIn (onWay inner path?) =
      around (fun mw ↦ (of mw).layer) (onWay inner path?) :=
    h.around_others fun mw hmw ↦ List.mem_append_right _ (mem_of_mem_onWay hmw)
  constructor
  · intro hscope
    rw [h.middleware, onWay_append, onWay_cons_of_inScope hscope, around_append, houter, ← hinner]
    rfl
  · intro hscope
    rw [h.middleware, onWay_append, onWay_cons_of_not_inScope hscope, around_append, houter, hinner]

theorem keeps_outer (h : Limited cell s m outer inner of) (path? : Option String) :
    ∀ mw ∈ onWay outer path?, (of mw).Keeps cell :=
  fun mw hmw ↦ h.keeps mw (List.mem_append_left _ (mem_of_mem_onWay hmw))

theorem keeps_inner (h : Limited cell s m outer inner of) (path? : Option String) :
    ∀ mw ∈ onWay inner path?, (of mw).Keeps cell :=
  fun mw hmw ↦ h.keeps mw (List.mem_append_right _ (mem_of_mem_onWay hmw))

theorem reporting_destination (h : Limited cell s m outer inner of)
    (hdestination : Destination m mounted req path? service) :
    Reporting cell s service := by
  cases hdestination with
  | unrouted => exact reporting_of_keeps fun _ ↦ Effect.keeps_pure _
  | @routed path o _ _ _ _ ho =>
    by_cases hpath : path = statusPath
    · obtain ⟨own, hown, hendpoint⟩ := h.status
      obtain rfl : o = own := Option.some.inj ((hpath ▸ ho).symm.trans hown)
      rw [hendpoint]
      rcases (MethodTable.get (statusService cell)).answering_cases req.method
        with hotherwise | ⟨_, hservice⟩
      · rw [hotherwise]
        exact reporting_of_keeps fun _ ↦ Effect.keeps_pure _
      · rw [MethodTable.eq_of_service?_get hservice]
        exact reporting_statusService
    · exact reporting_of_keeps ((h.others path o ho hpath).answering req.method)

theorem charges_of_inScope (h : Limited cell s m outer inner of)
    (hdestination : Destination m mounted req path? service) (hscope : InScope s path?)
    {forwarded : Request} (hadmits : Admits m.hooks seconds req w forwarded w₁)
    (hbs : cell.read w₁.store = some ⟨s, bs⟩) :
    ∃ calls, Charges s m outer of seconds mounted req w calls ∧
      Drawn cell s calls w₁
        ((around layerIn (onWay m.middleware path?) service forwarded).outcome w₁).2 := by
  have hbehind : Reporting cell s (around (fun mw ↦ (of mw).layer) (onWay inner path?) service) :=
    reporting_around (h.keeps_inner path?) (h.reporting_destination hdestination)
  rw [(h.around_onWay path? service).1 hscope]
  by_cases hpassed : ∃ req' w₂, PassedOn of (onWay outer path?) forwarded w₁ req' w₂
  · obtain ⟨req', w₂, hpassed⟩ := hpassed
    have hkept : cell.Kept w₁ w₂ := kept_of_passedOn hpassed (h.keeps_outer path?)
    obtain ⟨reports, hreports, hdrawn⟩ := drawn_enforce hbehind req' (hkept.read_eq hbs)
    obtain ⟨result, v, hway, hback⟩ := exists_outcome_of_passedOn hpassed (h.keeps_outer path?)
      (enforce cell s.limits (around (fun mw ↦ (of mw).layer) (onWay inner path?) service))
    rw [hway]
    refine ⟨_, .charged hdestination ⟨hscope, forwarded, w₁, hadmits, hpassed⟩ hreports, ?_⟩
    exact .kept_trans hkept (hdrawn.trans_kept hback)
  · obtain ⟨result, v, hway, hkept⟩ := exists_outcome_of_not_passedOn hpassed (h.keeps_outer path?)
    rw [hway]
    refine ⟨[], .uncharged hdestination ?_ (.inl rfl), drawn_of_kept hkept⟩
    rintro ⟨req', w₂, -, forwarded', w₁', hadmits', hpassed'⟩
    obtain ⟨rfl, rfl⟩ := hadmits.deterministic hadmits'
    exact hpassed ⟨req', w₂, hpassed'⟩

theorem charges_of_not_inScope (h : Limited cell s m outer inner of)
    (hdestination : Destination m mounted req path? service) (hscope : ¬ InScope s path?) (w : World υ)
    (forwarded : Request)
    (hbs : cell.read w₁.store = some ⟨s, bs⟩) :
    ∃ calls, Charges s m outer of seconds mounted req w calls ∧
      Drawn cell s calls w₁
        ((around layerIn (onWay m.middleware path?) service forwarded).outcome w₁).2 := by
  have hbehind : Reporting cell s (around (fun mw ↦ (of mw).layer) (onWay inner path?) service) :=
    reporting_around (h.keeps_inner path?) (h.reporting_destination hdestination)
  rw [(h.around_onWay path? service).2 hscope]
  obtain ⟨calls, hreports, hdrawn⟩ :=
    reporting_around (h.keeps_outer path?) hbehind forwarded w₁ bs hbs
  refine ⟨calls, .uncharged hdestination ?_ hreports, hdrawn⟩
  rintro ⟨_, _, hscope', -⟩
  exact hscope hscope'

theorem charges_of_hookLayer (h : Limited cell s m outer inner of)
    (hdestination : Destination m mounted req path? service) (seconds : Nat)
    (hbs : cell.read w.store = some ⟨s, bs⟩) :
    ∃ calls, Charges s m outer of seconds mounted req w calls ∧
      Drawn cell s calls w
        (Effect.outcome
          (hookLayer m.hooks seconds (around layerIn (onWay m.middleware path?) service) req) w).2 := by
  by_cases hadmits : ∃ forwarded w₁, Admits m.hooks seconds req w forwarded w₁
  · obtain ⟨forwarded, w₁, hadmits⟩ := hadmits
    have hkept : cell.Kept w w₁ := kept_of_admits hadmits (h.hooks .before)
    obtain ⟨calls, hcharges, hdrawn⟩ : ∃ calls, Charges s m outer of seconds mounted req w calls ∧
        Drawn cell s calls w₁
          ((around layerIn (onWay m.middleware path?) service forwarded).outcome w₁).2 := by
      by_cases hscope : InScope s path?
      · exact h.charges_of_inScope hdestination hscope hadmits (hkept.read_eq hbs)
      · exact h.charges_of_not_inScope hdestination hscope w forwarded (hkept.read_eq hbs)
    obtain ⟨result, w', houtcome, hafter⟩ := exists_outcome_of_admits hadmits (h.hooks .after)
      (around layerIn (onWay m.middleware path?) service)
    rw [houtcome]
    exact ⟨calls, hcharges, .kept_trans hkept (hdrawn.trans_kept hafter)⟩
  · obtain ⟨result, w', houtcome, hkept⟩ := exists_outcome_of_not_admits hadmits (h.hooks .before)
    rw [houtcome]
    refine ⟨[], .uncharged hdestination ?_ (.inl rfl), drawn_of_kept hkept⟩
    rintro ⟨_, _, -, forwarded, w₁, hadmits', -⟩
    exact hadmits ⟨forwarded, w₁, hadmits'⟩

end Limited

def KeepsClient (i : Interceptor υ) : Prop :=
  ∀ req w forwarded back w', (i req).outcome w = (.ok (.pass forwarded back), w') →
    clientKey forwarded = clientKey req

theorem clientKey_of_passedOn {ms : List (Middleware (host υ))} (h : PassedOn of ms req w req' w')
    (hms : ∀ mw ∈ ms, KeepsClient (of mw)) : clientKey req' = clientKey req := by
  induction h with
  | nil => rfl
  | @cons mw _ req forwarded _ w v _ back hpass _ ih =>
    have hhead : clientKey forwarded = clientKey req :=
      hms mw List.mem_cons_self req w forwarded back v hpass
    exact (ih fun a ha ↦ hms a (List.mem_cons_of_mem mw ha)).trans hhead

theorem clientKey_of_reaches (h : Reaches s m outer of seconds path? req w req' w')
    (houter : ∀ mw ∈ outer, KeepsClient (of mw)) : clientKey req' = clientKey req := by
  obtain ⟨-, forwarded, w₁, hadmits, hpassed⟩ := h
  have hforwarded : clientKey forwarded = clientKey req := by cases hadmits <;> rfl
  exact (clientKey_of_passedOn hpassed fun mw hmw ↦ houter mw (mem_of_mem_onWay hmw)).trans hforwarded

theorem clientKey_of_more_entries {first rest : String} (hpeer : req.peer = req'.peer)
    (h : req.header? forwardedFor = some first)
    (h' : req'.header? forwardedFor = some (first ++ "," ++ rest)) :
    clientKey req' = clientKey req := by
  have htake : (first ++ "," ++ rest).toList.takeWhile (· ≠ ',') =
      first.toList.takeWhile (· ≠ ',') := by
    rw [String.toList_append, String.toList_append, List.append_assoc]
    induction first.toList with
    | nil => rfl
    | cons c cs ih =>
      rw [List.cons_append, List.takeWhile_cons, List.takeWhile_cons, ih]
  rw [clientKey, clientKey, h, h', hpeer, Option.bind_some, Option.bind_some, htake]

/-- A router handles a request that arrives, which makes these calls of the limiter; no others are
made. -/
structure Charged (cell : Cell υ (Option Active)) (s : Settings) (m : Manager (host υ) υ)
    (outer : List (Middleware (host υ))) (of : Middleware (host υ) → Interceptor υ) (seconds : Nat)
    (mounted : Mounting υ) (router : Router υ) (k : Arrival × Schedule) (w w' : World υ) : Prop where
  handled : Handled router k.1 w w'
  charges : Charges s m outer of seconds mounted k.1.request (w.later k.1.idle) k.2
  drawn : Drawn cell s k.2 w w'

theorem drawn_of_runs {router : Router υ} {ks : List (Arrival × Schedule)}
    (h : Runs (Charged cell s m outer of seconds mounted router) ks w w') :
    Drawn cell s (ks.flatMap (·.2)) w w' := by
  induction h with
  | nil => exact drawn_of_kept (.refl _)
  | cons hk _ ih =>
    rw [List.flatMap_cons]
    exact hk.drawn.trans ih

structure ChargesOnce (cell : Cell υ (Option Active)) (s : Settings) (m : Manager (host υ) υ)
    (seconds : Nat) (outer inner : List (Middleware (host υ)))
    (of : Middleware (host υ) → Interceptor υ) (mounted : Mounting υ)
    (router : Router υ) : Prop where
  limited : Limited cell s m outer inner of
  routes : ∀ req, ∃ path? service, Destination m mounted req path? service ∧
    ∃ (entry behind : Service υ) (finish : Response → Response),
    LeadsTo of (onWay inner path?) service behind ∧
    (InScope s path? → LeadsTo of (onWay outer path?) (enforce cell s.limits behind) entry) ∧
    (¬ InScope s path? → LeadsTo of (onWay outer path?) behind entry) ∧
    (∀ r, (finish r).status = r.status) ∧
    router.handle req = (do return finish (← hookLayer m.hooks seconds entry req))
  check : ∀ w bs, cell.read w.store = some ⟨s, bs⟩ →
    ∀ next req, (enforce cell s.limits next req).outcome w =
    let (admitted, left) := bs.check s.limits w.clock (clientKey req)
    if admitted then (next req).outcome (cell.put (some ⟨s, left⟩) w)
    else (.ok (rejection s.limits), cell.put (some ⟨s, left⟩) w)
  refused : (rejection s.limits).status = 429
  report : ∀ w bs, cell.read w.store = some ⟨s, bs⟩ → ∀ req, (statusService cell req).outcome w =
    let (report, left) := bs.status s.limits w.clock (clientKey req)
    (.ok (.json 200 (told report).write), cell.put (some ⟨s, left⟩) w)
  tells : s.maxTokens < 0x100000000 → Json.Legible s.refillPerSecond → ∀ (bs : Buckets Float) now key,
    Tells (bs.status s.limits now key).1 (.json 200 (told (bs.status s.limits now key).1).write)
  client : (∀ mw ∈ outer, KeepsClient (of mw)) → ∀ path? req w req' w',
    Reaches s m outer of seconds path? req w req' w' → clientKey req' = clientKey req
  entries : ∀ (req req' : Request) first rest, req.peer = req'.peer →
    req.header? forwardedFor = some first →
    req'.header? forwardedFor = some (first ++ "," ++ rest) → clientKey req' = clientKey req
  run : ∀ arrivals w w' bs, cell.read w.store = some ⟨s, bs⟩ → Runs (Handled router) arrivals w w' →
    ∃ ks : List (Arrival × Schedule), ks.map (·.1) = arrivals ∧
      Runs (Charged cell s m outer of seconds mounted router) ks w w' ∧
      cell.read w'.store = some ⟨s, bs.afterAll s.limits (ks.flatMap (·.2))⟩

theorem Limited.charged (h : Limited cell s m outer inner of)
    (hstanding : mounted.Standing layerIn m.middleware m.table) (seconds : Nat) (a : Arrival)
    (hbs : cell.read w.store = some ⟨s, bs⟩)
    (hhandled : Handled (mounted.router.layer (hookLayer m.hooks seconds)) a w w') :
    ∃ calls, Charged cell s m outer of seconds mounted
      (mounted.router.layer (hookLayer m.hooks seconds)) (a, calls) w w' := by
  obtain ⟨path?, service, hdestination, finish, -, hhandle⟩ :=
    exists_destination hstanding (hookLayer m.hooks seconds) a.request
  have hlater : cell.Kept w (w.later a.idle) := rfl
  obtain ⟨calls, hcharges, hdrawn⟩ := h.charges_of_hookLayer hdestination seconds (hlater.read_eq hbs)
  refine ⟨calls, hhandled, hcharges, ?_⟩
  rw [Handled, hhandle, Effect.outcome_map] at hhandled
  rw [← hhandled]
  exact .kept_trans hlater hdrawn

theorem Limited.chargesOnce (h : Limited cell s m outer inner of)
    (hstanding : mounted.Standing layerIn m.middleware m.table) (seconds : Nat) :
    ChargesOnce cell s m seconds outer inner of mounted
      (mounted.router.layer (hookLayer m.hooks seconds)) where
  limited := h
  routes req := by
    obtain ⟨path?, service, hdestination, finish, hstatus, hhandle⟩ :=
      exists_destination hstanding (hookLayer m.hooks seconds) req
    obtain ⟨hin, hout⟩ := h.around_onWay path? service
    refine ⟨path?, service, hdestination, around layerIn (onWay m.middleware path?) service,
      around (fun mw ↦ (of mw).layer) (onWay inner path?) service, finish, leadsTo_around _ _ _,
      fun hscope ↦ ?_, fun hscope ↦ ?_, hstatus, hhandle⟩
    · rw [hin hscope]
      exact leadsTo_around _ _ _
    · rw [hout hscope]
      exact leadsTo_around _ _ _
  check w bs hbs next req := outcome_enforce hbs next req
  refused := status_rejection s.limits
  report w bs hbs req := outcome_statusService hbs req
  tells hmax hrate bs now key := tells_status bs hmax hrate now key
  client houter path? req w req' w' hreaches := clientKey_of_reaches hreaches houter
  entries req req' first rest hpeer hfirst hmore := clientKey_of_more_entries hpeer hfirst hmore
  run arrivals w w' bs hbs hruns := by
    have hstep (a : Arrival) (v v' : World υ) (hv : ∃ bs, cell.read v.store = some ⟨s, bs⟩)
        (hhandled : Handled (mounted.router.layer (hookLayer m.hooks seconds)) a v v') :
        ∃ calls, Charged cell s m outer of seconds mounted
          (mounted.router.layer (hookLayer m.hooks seconds)) (a, calls) v v' ∧
          ∃ bs, cell.read v'.store = some ⟨s, bs⟩ := by
      obtain ⟨bs, hbs⟩ := hv
      obtain ⟨calls, hcharged⟩ := h.charged hstanding seconds a hbs hhandled
      exact ⟨calls, hcharged, _, hcharged.drawn bs hbs⟩
    obtain ⟨ks, hks, hlabelled⟩ := hruns.exists_labelled hstep ⟨bs, hbs⟩
    exact ⟨ks, hks, hlabelled, drawn_of_runs hlabelled bs hbs⟩

end

theorem exists_limited_of_hosts {m : Manager (host υ) υ} {own : Contribution (host υ) υ}
    (h : Hosts cell (Intercepts cell) m own) (hendpoints : own.endpoints = statusEndpoints cell)
    (hhooks : own.hooks = none) (hmiddleware : own.middleware = [limiting cell s]) :
    ∃ outer inner of, Limited cell s m outer inner of := by
  obtain ⟨others, hperm, hothers⟩ := h.middleware
  rw [hmiddleware] at hperm
  obtain ⟨outer, inner, heq, hsplit⟩ := exists_middle_of_perm hperm
  have hof (mw : Middleware (host υ)) : ∃ i : Interceptor υ,
      mw ∈ outer ++ inner → (∀ r, applied mw r = r.layer i.layer) ∧ i.Keeps cell := by
    by_cases hmw : mw ∈ outer ++ inner
    · obtain ⟨i, hi⟩ := hothers mw (hsplit.mem_iff.1 hmw)
      exact ⟨i, fun _ ↦ hi⟩
    · exact ⟨fun _ ↦ return .answer (.empty 404), fun h ↦ absurd h hmw⟩
  choose of hof using hof
  have hstatus : own.endpoints.get? statusPath = some (.get (statusService cell)) := by
    rw [hendpoints]
    exact (Dict.get?_insert ..).trans (if_pos rfl)
  refine ⟨outer, inner, of, heq, fun mw hmw ↦ (hof mw hmw).1, fun mw hmw ↦ (hof mw hmw).2,
    fun p x hx ↦ ?_, h.own_endpoint _ _ hstatus, fun path o ho hpath ↦ ?_⟩
  · obtain ⟨others, hperm, hothers⟩ := h.hooks p
    rw [registration, Registration.hooks, hhooks] at hperm
    exact hothers _ (hperm.mem_iff.1 (List.mem_map_of_mem hx))
  · rcases h.endpoint path o ho with hkeeps | hget
    · exact hkeeps
    · rw [hendpoints] at hget
      exact absurd (eq_of_get?_insert_empty hget).1 hpath

theorem exists_limited_of_start {before after : PluginList (host υ) υ} {config : Config.AppConfig}
    {m : Manager (host υ) υ} (hforeign : ∀ p ∈ before ++ after, Foreign cell (Intercepts cell) p)
    (hstart : ((ofPlugins (before ++ plugin cell :: after)).start config).outcome w =
      (.ok (m, .ok ()), w')) :
    ∃ s outer inner of, config.settings pluginId Settings.ofJson {} = .ok s ∧ s.validate = .ok () ∧
      cell.read w'.store = some ⟨s, .empty⟩ ∧ Limited cell s m outer inner of := by
  obtain ⟨own, w₁, w₂, hown, ⟨hs, he, hb, hm⟩, -, hkept, hhosts⟩ := hosts_of_start hforeign hstart
  rw [hown] at hs he hb hm
  obtain ⟨s, hsettings, hvalid, -, hread⟩ := active_of_startPlugin hs
  obtain ⟨hendpoints, rfl⟩ := Effect.eq_of_outcomes (outcome_endpoints cell _) he
  obtain ⟨hhooks, rfl⟩ := Effect.eq_of_outcome_pure hb
  obtain ⟨hmiddleware, rfl⟩ := Effect.eq_of_outcomes (outcome_middleware cell _) hm
  have hlogged := (cell.kept_logged _ (hookNotes (plugin cell).id own.hooks)).read_eq hread
  rw [hread] at hendpoints
  rw [hlogged] at hmiddleware
  obtain ⟨outer, inner, of, hlimited⟩ :=
    exists_limited_of_hosts hhosts hendpoints.symm hhooks.symm hmiddleware.symm
  exact ⟨s, outer, inner, of, hsettings, hvalid, hkept.read_eq hread, hlimited⟩

/-- Let a manager of the plugin and of others that are foreign to its cell start. Then the settings
of the configuration are in effect, and the assembled router charges requests by them: one that gets
to the limiter makes one check there, of its client's bucket in the one set of buckets that all
endpoints share, and any other request makes none. -/
theorem charges_once (cell : Cell υ (Option Active)) (before after : PluginList (host υ) υ)
    (config : Config.AppConfig) (w w' : World υ) (m : Manager (host υ) υ)
    (server : Config.ServerConfig)
    (hforeign : ∀ p ∈ before ++ after, Foreign cell (Intercepts cell) p)
    (hstart : ((ofPlugins (before ++ plugin cell :: after)).start config).outcome w =
      (.ok (m, .ok ()), w')) :
    ∃ s outer inner of mounted router, config.settings pluginId Settings.ofJson {} = .ok s ∧
      s.validate = .ok () ∧
      cell.read w'.store = some ⟨s, .empty⟩ ∧
      (mountAll m.middleware m.table.entries {}).Yields mounted ∧
      (assemble m server).Yields router ∧
      ChargesOnce cell s m server.requestTimeoutSeconds outer inner of mounted router := by
  obtain ⟨s, outer, inner, of, hsettings, hvalid, hread, hlimited⟩ :=
    exists_limited_of_start hforeign hstart
  refine ⟨s, outer, inner, of, mounting m, _, hsettings, hvalid, hread, Mounting.yields_mountAll _ _ _,
    yields_assemble m server, ?_⟩
  exact hlimited.chargesOnce (standing_mounting m hlimited.wraps_layerIn) server.requestTimeoutSeconds

theorem charges_once_built_in :
    let cell := Server.limiterCell
    (∀ p ∈ [Audit.plugin Server.auditCell], Foreign cell (Intercepts cell) p) ∧
    ∃ m w', ((ofPlugins Server.builtIn).start {}).outcome (World.start {}) = (.ok (m, .ok ()), w') ∧
    ∃ s outer inner of mounted router, cell.read w'.store = some ⟨s, .empty⟩ ∧
      (assemble m {}).Yields router ∧
      ChargesOnce cell s m 30 outer inner of mounted router := by
  intro cell
  have hforeign : ∀ p ∈ [Audit.plugin Server.auditCell], Foreign cell (Intercepts cell) p := by
    intro p hp
    rw [List.mem_singleton.1 hp]
    exact Audit.foreign_plugin Server.audit_apart_limiter
  obtain ⟨m, w', hstart⟩ := Server.exists_start_builtIn
  obtain ⟨s, outer, inner, of, mounted, router, -, -, hread, -, hrouter, hcharges⟩ :=
    charges_once cell [] [Audit.plugin Server.auditCell] {} (World.start {}) w' m {} hforeign hstart
  exact ⟨hforeign, m, w', hstart, s, outer, inner, of, mounted, router, hread, hrouter, hcharges⟩

def oneRequest : Settings := { maxTokens := 1, refillPerSecond := 0.0, scope := "/rate-limit" }

def oneRequestConfig : Config.AppConfig where
  plugins.settings := .ofList [(pluginId, .object
    [("max_tokens", .int 1), ("refill_per_second", .double 0.0), ("scope", .text "/rate-limit")])]

def oneRequestManager : Manager (host Server.Memory) Server.Memory where
  plugins := [plugin Server.limiterCell]
  table := .ofList [(statusPath, ⟨pluginId, .get (statusService Server.limiterCell)⟩)]
  middleware := [limiting Server.limiterCell oneRequest]
  state := .initialized

/-- A request that matches no mounted endpoint, and whose path is not in scope, takes the one token
that there is; the next one is refused. -/
theorem unrouted_charged :
    let m := oneRequestManager
    let req : Request := { method := "GET", path := "/nowhere" }
    ∃ w router w',
      ((ofPlugins m.plugins).start oneRequestConfig).outcome (World.start {}) = (.ok (m, .ok ()), w) ∧
      Server.limiterCell.read w.store = some ⟨oneRequest, .empty⟩ ∧
      (assemble m {}).outcome w = (.ok router, w') ∧
      (router.route? req.path).isNone = true ∧ Route.scopeCovers oneRequest.scope req.path = false ∧
      let start := Server.limiterCell.put (some ⟨oneRequest, .empty⟩) (World.start {})
      ((router.handle req).outcome start).1 = .ok (.empty 404) ∧
      ((router.handle req).outcome ((router.handle req).outcome start).2).1 =
        .ok (rejection oneRequest.limits) := by
  intro m req
  have hadopt : ∃ w,
      (adoptAll oneRequestConfig m.plugins (ofPlugins m.plugins)).outcome (World.start {}) =
      (.ok ({ m with state := .uninitialized }, .ok ()), w) ∧
      Server.limiterCell.read w.store = some ⟨oneRequest, .empty⟩ := ⟨_, rfl, rfl⟩
  have hsort : sortByPriority m.middleware = m.middleware := List.mergeSort_singleton _
  obtain ⟨w₁, hadopt, hread⟩ := hadopt
  have hstart : ∃ w,
      ((ofPlugins m.plugins).start oneRequestConfig).outcome (World.start {}) = (.ok (m, .ok ()), w) ∧
      Server.limiterCell.read w.store = some ⟨oneRequest, .empty⟩ := by
    refine ⟨_, outcome_start_eq_ok.2 ⟨_, w₁, hadopt, ?_, rfl⟩, hread⟩
    exact congrArg (fun ms ↦ { m with middleware := ms }) hsort.symm
  obtain ⟨w, hstart, hread⟩ := hstart
  obtain ⟨events, hassemble⟩ := yields_assemble m {} w
  refine ⟨w, _, _, hstart, hread, hassemble, ?_, ?_, ?_, ?_⟩
  · decide +kernel
  · decide +kernel
  · decide +kernel
  · decide +kernel

end FrontDoor.RateLimit
