import FrontDoor.Proofs.Frame.Requests

namespace FrontDoor

variable {υ α κ : Type} {w w₁ w₂ : World υ}

namespace World

theorem isCancelled_iff_lineage (w : World υ) (t : Token) :
    w.isCancelled t = true ↔ ∃ n ∈ t.lineage, n ∈ w.cancelled := by
  simp only [isCancelled, List.any_eq_true, List.contains_iff_mem]

theorem isCancelled_iff (w : World υ) (n : Nat) : w.isCancelled ⟨[n]⟩ = true ↔ n ∈ w.cancelled := by
  simp [isCancelled_iff_lineage]

theorem isCancelled_cancel_self (w : World υ) (n : Nat) : (w.cancel ⟨[n]⟩).isCancelled ⟨[n]⟩ = true :=
  (isCancelled_iff _ n).2 List.mem_cons_self

theorem isCancelled_cancel_of_not_mem {own : Nat} {ancestors : List Nat} {t : Token}
    (h : own ∉ t.lineage) (w : World υ) :
    (w.cancel ⟨own :: ancestors⟩).isCancelled t = w.isCancelled t := by
  rw [Bool.eq_iff_iff, isCancelled_iff_lineage, isCancelled_iff_lineage]
  refine exists_congr fun n ↦ and_congr_right fun hn ↦ ?_
  rw [cancel, List.mem_cons, or_iff_right (ne_of_mem_of_not_mem hn h)]

end World

/-- Neither token is cancelled with the other. -/
def Token.Apart (υ : Type) (t t' : Token) : Prop :=
  ∀ w : World υ, (w.cancel t).isCancelled t' = w.isCancelled t' ∧
    (w.cancel t').isCancelled t = w.isCancelled t

theorem Token.apart_of_not_mem {own own' : Nat} {ancestors ancestors' : List Nat}
    (h : own ∉ own' :: ancestors') (h' : own' ∉ own :: ancestors) :
    Token.Apart υ ⟨own :: ancestors⟩ ⟨own' :: ancestors'⟩ :=
  fun w ↦ ⟨World.isCancelled_cancel_of_not_mem h w, World.isCancelled_cancel_of_not_mem h' w⟩

theorem Token.apart_of_ne {m n : Nat} (h : m ≠ n) : Token.Apart υ ⟨[m]⟩ ⟨[n]⟩ :=
  apart_of_not_mem (fun hm ↦ h (List.mem_singleton.1 hm)) fun hn ↦ h (List.mem_singleton.1 hn).symm

/-- However the step ends, the tokens that were issued before it stay issued. -/
def Effect.KeepsTokens (body : Effect υ α) : Prop :=
  ∀ w : World υ, w.tokens ≤ (body.outcome w).2.tokens

def Hook.KeepsTokens (h : Hook υ) : Prop := ∀ ctx payload, (h.call ctx payload).KeepsTokens

namespace Runs

variable {step : κ → World υ → World υ → Prop} {ks : List κ}

theorem exists_change {P : World υ → Prop} (h : Runs step ks w w₁) (hw : ¬ P w) (hw₁ : P w₁) :
    ∃ earlier k later v v', ks = earlier ++ k :: later ∧ Runs step earlier w v ∧ step k v v' ∧ ¬ P v ∧
      P v' := by
  induction h with
  | nil => exact absurd hw₁ hw
  | @cons k ks w v _ hs _ ih =>
    by_cases hv : P v
    · exact ⟨[], k, ks, w, v, rfl, .nil w, hs, hw, hv⟩
    · obtain ⟨earlier, k', later, u, u', rfl, hruns, hchange⟩ := ih hv hw₁
      exact ⟨k :: earlier, k', later, u, u', rfl, .cons hs hruns, hchange⟩

end Runs

namespace Http

inductive Part (υ : Type) where
  | hook (p : Phase) (x : PlacedHook υ)
  | service

/-- The before-hooks that accept a request, the service and the after-hooks that accept it. -/
def parts (registry : HookRegistry υ) (req : Request) : List (Part υ) :=
  (registry.due .before req.path req.method).map (.hook .before) ++
    .service :: (registry.due .after req.path req.method).map (.hook .after)

inductive Visit (υ : Type) where
  | hook (p : Phase) (x : PlacedHook υ) (ctx : RequestContext) (payload : Payload)
  | service (forwarded : Request)

variable {registry : HookRegistry υ} {seconds : Nat} {next : Service υ} {req : Request}
  {ctx : RequestContext} {payload : Payload} {p : Phase} {o : HookOutcome υ}
  {due : List (PlacedHook υ)} {ps : List (Part υ)}
  {v : Visit υ}
  {visits : List (Visit υ)} {w' : World υ}

namespace Visit

def part : Visit υ → Part υ
  | hook p x _ _ => .hook p x
  | service _ => .service

/-- A hook is called with the context and told its identifier; the service finds the context in the
request. -/
def Sees (ctx : RequestContext) : Visit υ → Prop
  | hook _ _ given payload => given = ctx ∧ payload.uuid? "request_id" = some ctx.requestId
  | service forwarded => forwarded.context = some ctx

def Happens (next : Service υ) : Visit υ → World υ → World υ → Prop
  | hook _ x ctx payload, w, w' => ((x.hook.call ctx payload).outcome w).2 = w'
  | service forwarded, w, w' => ((next forwarded).outcome w).2 = w'

def Passes (next : Service υ) : Visit υ → World υ → World υ → Prop
  | hook _ x ctx payload, w, w' => x.Passes ctx payload w w'
  | service forwarded, w, w' => ∃ response, (next forwarded).outcome w = (.ok response, w')

def Stops (next : Service υ) : Visit υ → World υ → World υ → Prop
  | hook _ x ctx payload, w, w' =>
    ∃ result, result ≠ .ok (.ok ()) ∧ (x.hook.call ctx payload).outcome w = (result, w')
  | service forwarded, w, w' => ∃ reason, (next forwarded).outcome w = (.error reason, w')

theorem Passes.happens (h : v.Passes next w w') : v.Happens next w w' := by
  cases v with
  | hook p x ctx payload => exact congrArg Prod.snd h
  | service forwarded =>
    obtain ⟨response, hresponse⟩ := h
    exact congrArg Prod.snd hresponse

theorem Stops.happens (h : v.Stops next w w') : v.Happens next w w' := by
  cases v with
  | hook p x ctx payload =>
    obtain ⟨result, -, hresult⟩ := h
    exact congrArg Prod.snd hresult
  | service forwarded =>
    obtain ⟨reason, hreason⟩ := h
    exact congrArg Prod.snd hreason

end Visit

/-- Parts are visited in their order, up to and including the first that does not pass. -/
inductive Visits (next : Service υ) (ps : List (Part υ)) (w : World υ) :
    List (Visit υ) → World υ → Prop
  | all {visits : List (Visit υ)} {w' : World υ} :
      visits.map Visit.part = ps → Runs (Visit.Passes next) visits w w' → Visits next ps w visits w'
  | upTo {visits : List (Visit υ)} {v : Visit υ} {rest : List (Part υ)} {u w' : World υ} :
      ps = visits.map Visit.part ++ v.part :: rest → Runs (Visit.Passes next) visits w u →
      v.Stops next u w' →
      Visits next ps w (visits ++ [v]) w'

namespace Visits

theorem runs (h : Visits next ps w visits w') : Runs (Visit.Happens next) visits w w' := by
  cases h with
  | all _ hruns => exact hruns.imp fun _ _ _ hv ↦ hv.happens
  | upTo _ hruns hstops =>
    exact (hruns.imp fun _ _ _ hv ↦ hv.happens).append (.cons hstops.happens (.nil _))

theorem part_mem (h : Visits next ps w visits w') (hv : v ∈ visits) : v.part ∈ ps := by
  cases h with
  | all hparts => exact hparts ▸ List.mem_map_of_mem hv
  | upTo hparts =>
    rw [hparts]
    rcases List.mem_append.1 hv with hv | hv
    · exact List.mem_append_left _ (List.mem_map_of_mem hv)
    · cases List.mem_singleton.1 hv
      exact List.mem_append_right _ List.mem_cons_self

theorem append {earlier : List (Visit υ)} (hruns : Runs (Visit.Passes next) earlier w w₁)
    (h : Visits next ps w₁ visits w') :
    Visits next (earlier.map Visit.part ++ ps) w (earlier ++ visits) w' := by
  cases h with
  | all hparts hrest => exact .all (by rw [List.map_append, hparts]) (hruns.append hrest)
  | @upTo visits v rest _ _ hparts hrest hstops =>
    have hall : earlier.map Visit.part ++ ps =
        (earlier ++ visits).map Visit.part ++ v.part :: rest := by
      rw [hparts, List.map_append, List.append_assoc]
    rw [← List.append_assoc]
    exact .upTo hall (hruns.append hrest) hstops

end Visits

theorem runs_hooks (h : Runs (PlacedHook.Passes ctx payload) due w w') :
    Runs (Visit.Passes next) (due.map (Visit.hook p · ctx payload)) w w' :=
  Runs.map (f := (Visit.hook p · ctx payload)) h

theorem exists_visits_of_stop (next : Service υ) (p : Phase) (h : HooksRun ctx payload due w o w')
    (ho : o ≠ .passed) (later : List (Part υ)) :
    ∃ called : List (PlacedHook υ),
      Visits next (due.map (.hook p) ++ later) w (called.map (.hook p · ctx payload)) w' := by
  have hstop {called rest : List (PlacedHook υ)} {x : PlacedHook υ} {u : World υ}
      {result : Except Abort (Except Fault Unit)} (hdue : due = called ++ x :: rest)
      (hruns : Runs (PlacedHook.Passes ctx payload) called w u) (hne : result ≠ .ok (.ok ()))
      (hx : (x.hook.call ctx payload).outcome u = (result, w')) :
      Visits next (due.map (.hook p) ++ later) w ((called ++ [x]).map (.hook p · ctx payload)) w' := by
    have hparts : due.map (.hook p) ++ later =
        (called.map (Visit.hook p · ctx payload)).map Visit.part ++
        Part.hook p x :: (rest.map (.hook p) ++ later) := by
      rw [hdue, List.map_append, List.map_cons, List.map_map, List.append_assoc, List.cons_append]
      rfl
    rw [List.map_append]
    exact .upTo hparts (runs_hooks hruns) ⟨result, hne, hx⟩
  cases h with
  | passed => exact absurd rfl ho
  | failed hdue hruns hx => exact ⟨_, hstop hdue hruns (by simp) hx⟩
  | aborted hdue hruns hx => exact ⟨_, hstop hdue hruns (by simp) hx⟩

theorem exists_visits_of_hooksRun (next : Service υ) (p : Phase)
    (h : HooksRun ctx payload due w o w') :
    ∃ called : List (PlacedHook υ),
      Visits next (due.map (.hook p)) w (called.map (.hook p · ctx payload)) w' := by
  by_cases ho : o = .passed
  · subst ho
    cases h with
    | passed hruns => exact ⟨due, .all List.map_map (runs_hooks hruns)⟩
  · obtain ⟨called, hvisits⟩ := exists_visits_of_stop next p h ho []
    rw [List.append_nil] at hvisits
    exact ⟨called, hvisits⟩

theorem sees_hooks (hid : payload.uuid? "request_id" = some ctx.requestId) (xs : List (PlacedHook υ)) :
    ∀ v ∈ xs.map (Visit.hook p · ctx payload), v.Sees ctx := by
  intro v hv
  obtain ⟨x, -, rfl⟩ := List.mem_map.1 hv
  exact ⟨rfl, hid⟩

variable (registry next req ctx) in
def Tour (w w' : World υ) : Prop :=
  ∃ visits, Visits next (parts registry req) w visits w' ∧ ∀ v ∈ visits, v.Sees ctx

theorem tour_of_refusal (h : PhaseRun registry ctx req .before (hookEntries ctx req) w o w')
    (ho : o ≠ .passed) :
    Tour registry next req ctx w w' := by
  obtain ⟨called, hvisits⟩ := exists_visits_of_stop next .before h ho _
  exact ⟨_, hvisits, sees_hooks (uuid?_hookEntries ctx req w) called⟩

theorem tour_of_passed (h : PhaseRun registry ctx req .before (hookEntries ctx req) w .passed w₁)
    (hrest : Visits next
      (.service :: (registry.due .after req.path req.method).map (.hook .after)) w₁ visits w')
    (hsees : ∀ v ∈ visits, v.Sees ctx) : Tour registry next req ctx w w' := by
  cases h with
  | passed hruns =>
    have hvisits := Visits.append (runs_hooks (p := .before) hruns) hrest
    rw [List.map_map] at hvisits
    refine ⟨_, hvisits, fun v hv ↦ ?_⟩
    rcases List.mem_append.1 hv with hv | hv
    · exact sees_hooks (uuid?_hookEntries ctx req w) _ v hv
    · exact hsees v hv

theorem tour_of_abort {reason : Abort}
    (h : PhaseRun registry ctx req .before (hookEntries ctx req) w .passed w₁)
    (hnext : (next { req with context := some ctx }).outcome w₁ = (.error reason, w')) :
    Tour registry next req ctx w w' := by
  set forwarded : Request := { req with context := some ctx }
  have hrest : Visits next
      (.service :: (registry.due .after req.path req.method).map (.hook .after)) w₁
      ([] ++ [.service forwarded]) w' := .upTo rfl (.nil w₁) ⟨reason, hnext⟩
  refine tour_of_passed h hrest fun v hv ↦ ?_
  cases List.mem_singleton.1 hv
  rfl

theorem tour_of_answer {response : Response}
    (h : PhaseRun registry ctx req .before (hookEntries ctx req) w .passed w₁)
    (hnext : (next { req with context := some ctx }).outcome w₁ = (.ok response, w₂))
    (hafter : PhaseRun registry ctx req .after (statusEntries ctx req response) w₂ o w') :
    Tour registry next req ctx w w' := by
  set forwarded : Request := { req with context := some ctx }
  have hserved : Runs (Visit.Passes next) [.service forwarded] w₁ w₂ :=
    .cons ⟨response, hnext⟩ (.nil w₂)
  obtain ⟨called, hcalled⟩ := exists_visits_of_hooksRun next .after hafter
  refine tour_of_passed h (Visits.append hserved hcalled) fun v hv ↦ ?_
  rcases List.mem_cons.1 hv with rfl | hv
  · rfl
  · exact sees_hooks (uuid?_statusEntries ctx req response w₂) called v hv

theorem exists_tour_of_exchange {result : Except Abort Response}
    (h : Exchange registry ctx next req { req with context := some ctx } w result w') :
    ∃ w₁ events, Tour registry next req ctx w w₁ ∧ w' = w₁.logged events := by
  cases h with
  | rejected hbefore => exact ⟨_, _, tour_of_refusal hbefore (by simp), rfl⟩
  | abortedBefore hbefore => exact ⟨_, [], tour_of_refusal hbefore (by simp), rfl⟩
  | abortedService hbefore hnext => exact ⟨_, [], tour_of_abort hbefore hnext, rfl⟩
  | served hbefore hnext hafter => exact ⟨_, [], tour_of_answer hbefore hnext hafter, rfl⟩
  | replaced hbefore hnext hafter => exact ⟨_, _, tour_of_answer hbefore hnext hafter, rfl⟩
  | abortedAfter hbefore hnext hafter => exact ⟨_, [], tour_of_answer hbefore hnext hafter, rfl⟩

/-- One of the visits finds a token alive and leaves it cancelled. -/
def CancelledBy (next : Service υ) (token : Token) (w : World υ) (visits : List (Visit υ)) : Prop :=
  ∃ earlier v later u u', visits = earlier ++ v :: later ∧ Runs (Visit.Happens next) earlier w u ∧
    v.Happens next u u' ∧ ¬ u.isCancelled token = true ∧ u'.isCancelled token = true

/-- What becomes of the context of a request. Everything that the request comes to sees it; whoever
finds its token cancelled before the end finds the work of a hook or the service; and at the end the
token is cancelled, however that came about. -/
structure Lifetime (registry : HookRegistry υ) (seconds : Nat) (next : Service υ) (req : Request)
    (ctx : RequestContext) (w w' : World υ) : Prop where
  deadline : ctx.deadline = if seconds = 0 then none else some (w.clock + seconds * 1000000000)
  visited : TimeoutFits w seconds → ∃ visits w₁ events,
    Visits next (parts registry req) (opened w) visits w₁ ∧ (∀ v ∈ visits, v.Sees ctx) ∧
    (∀ earlier u, earlier <+: visits → Runs (Visit.Happens next) earlier (opened w) u →
      u.isCancelled ctx.token = true →
      CancelledBy next ctx.token (opened w) earlier) ∧
    w' = (w₁.logged events).cancel ctx.token
  -- A deadline that the clock cannot name ends the request before it comes to anything.
  unvisited : ¬ TimeoutFits w seconds → w' = (opened w).cancel ctx.token
  cancelled : w'.isCancelled ctx.token = true

theorem lifetime_of_hasHooks (hp : registry.hasHooks p = true)
    (hw : ¬ w.isCancelled ⟨[w.tokens]⟩ = true) (next : Service υ) (req : Request) :
    Lifetime registry seconds next req (contextAt w req seconds) w
      ((hookLayer registry seconds next req).outcome w).2 := by
  have halive : ¬ (opened w).isCancelled ⟨[w.tokens]⟩ = true := hw
  by_cases hfits : TimeoutFits w seconds
  · obtain ⟨result, u, hexchange⟩ := Exchange.total registry (contextAt w req seconds) next req
      { req with context := some (contextAt w req seconds) } (opened w)
    have houtcome := congrArg Prod.snd (outcome_hookLayer hfits (.hooked hp hexchange))
    obtain ⟨w₁, events, ⟨visits, hvisits, hsees⟩, rfl⟩ := exists_tour_of_exchange hexchange
    rw [houtcome]
    refine ⟨rfl, fun _ ↦ ⟨visits, w₁, events, hvisits, hsees, ?_, rfl⟩, absurd hfits, ?_⟩
    · -- The token is alive when the first part is visited, and nothing but visits lies between.
      intro earlier u _ hruns hcancelled
      exact hruns.exists_change halive hcancelled
    · exact World.isCancelled_cancel_self _ _
  · rw [outcome_hookLayer_of_not_fits hp hfits]
    exact ⟨rfl, fun h ↦ absurd h hfits, fun _ ↦ rfl, World.isCancelled_cancel_self _ _⟩

theorem mem_placed_of_mem_parts {x : PlacedHook υ} (h : Part.hook p x ∈ parts registry req) :
    x ∈ registry.placed p := by
  have hdue {q : Phase} (hmem : Part.hook p x ∈ (registry.due q req.path req.method).map (.hook q)) :
      x ∈ registry.placed p := by
    obtain ⟨y, hy, heq⟩ := List.mem_map.1 hmem
    cases heq
    exact mem_placed_of_mem_due hy
  rcases List.mem_append.1 h with h | h
  · exact hdue h
  · exact hdue (List.mem_of_ne_of_mem (by simp) h)

theorem Visit.tokens_le (hhooks : ∀ p, ∀ x ∈ registry.placed p, x.hook.KeepsTokens)
    (hnext : ∀ forwarded, (next forwarded).KeepsTokens) (hv : v.part ∈ parts registry req)
    (h : v.Happens next w w') :
    w.tokens ≤ w'.tokens := by
  cases v with
  | hook p x ctx payload => exact h ▸ hhooks p x (mem_placed_of_mem_parts hv) ctx payload w
  | service forwarded => exact h ▸ hnext forwarded w

theorem Lifetime.tokens_lt (h : Lifetime registry seconds next req ctx w w')
    (hhooks : ∀ p, ∀ x ∈ registry.placed p, x.hook.KeepsTokens)
    (hnext : ∀ forwarded, (next forwarded).KeepsTokens) :
    w.tokens < w'.tokens := by
  have hcancel (u : World υ) : (u.cancel ctx.token).tokens = u.tokens := by
    rw [World.cancel]
    split <;> rfl
  have hopened : (opened w).tokens = w.tokens + 2 := rfl
  by_cases hfits : TimeoutFits w seconds
  · obtain ⟨visits, w₁, events, hvisits, -, -, rfl⟩ := h.visited hfits
    have hvisited : (opened w).tokens ≤ w₁.tokens :=
      hvisits.runs.related (R := (·.tokens ≤ ·.tokens)) (fun _ ↦ Nat.le_refl _)
      Nat.le_trans fun v hv _ _ hstep ↦ Visit.tokens_le hhooks hnext (hvisits.part_mem hv) hstep
    have hlogged : (w₁.logged events).tokens = w₁.tokens := rfl
    rw [hcancel]
    omega
  · rw [h.unvisited hfits, hcancel]
    omega

structure Turn (υ : Type) where
  request : Request
  found : World υ

namespace Turn

def context (seconds : Nat) (k : Turn υ) : RequestContext := contextAt k.found k.request seconds

def left (registry : HookRegistry υ) (seconds : Nat) (next : Service υ) (k : Turn υ) : World υ :=
  ((hookLayer registry seconds next k.request).outcome k.found).2

/-- The layer takes a request. Other things may happen before the request arrives; the tokens that
were issued by then stay issued, and the one that comes next is not yet cancelled. -/
structure Taken (registry : HookRegistry υ) (seconds : Nat) (next : Service υ) (k : Turn υ)
    (w w' : World υ) : Prop where
  tokens : w.tokens ≤ k.found.tokens
  alive : ¬ k.found.isCancelled ⟨[k.found.tokens]⟩ = true
  left : k.left registry seconds next = w'

variable {turns : List (Turn υ)} {k : Turn υ}

theorem Taken.lifetime (hp : registry.hasHooks p = true) (h : k.Taken registry seconds next w w') :
    Lifetime registry seconds next k.request (k.context seconds) k.found w' := by
  rw [← h.left]
  exact lifetime_of_hasHooks hp h.alive next k.request

theorem pairwise_of_runs (hp : registry.hasHooks p = true)
    (hhooks : ∀ p, ∀ x ∈ registry.placed p, x.hook.KeepsTokens)
    (hnext : ∀ forwarded, (next forwarded).KeepsTokens)
    (h : Runs (Taken registry seconds next) turns w w') :
    (∀ k ∈ turns, w.tokens ≤ k.found.tokens) ∧
    turns.Pairwise fun j k ↦ j.found.tokens < k.found.tokens := by
  -- The bound on what later requests find starts from what this one leaves, where its own token is
  -- among the issued ones.
  induction h with
  | nil => simp
  | cons hk _ ih =>
    obtain ⟨hlater, hpairwise⟩ := ih
    have hleft := (hk.lifetime hp).tokens_lt hhooks hnext
    have hfound := hk.tokens
    refine ⟨fun j hj ↦ ?_, .cons (fun j hj ↦ ?_) hpairwise⟩
    · rcases List.mem_cons.1 hj with rfl | hj
      · exact hfound
      · have hj := hlater j hj
        omega
    · have hj := hlater j hj
      omega

end Turn

/-- Requests come to a layer with hooks one after another, and no code has a token issued twice.
Everything that one of them comes to sees one context, with its deadline; its token is cancelled at
the end of the request, and before only by a hook or the service itself; and the token of one
request is never cancelled with that of another. -/
theorem one_context {turns : List (Turn υ)} (hp : registry.hasHooks p = true)
    (hhooks : ∀ p, ∀ x ∈ registry.placed p, x.hook.KeepsTokens)
    (hnext : ∀ forwarded, (next forwarded).KeepsTokens)
    (hruns : Runs (Turn.Taken registry seconds next) turns w w') :
    (∀ k ∈ turns,
      Lifetime registry seconds next k.request (k.context seconds) k.found
        (k.left registry seconds next)) ∧
    turns.Pairwise fun j k ↦ Token.Apart υ (j.context seconds).token (k.context seconds).token := by
  constructor
  · intro k hk
    obtain ⟨u, u', htaken⟩ := hruns.exists_step_of_mem hk
    exact htaken.left ▸ htaken.lifetime hp
  · refine (Turn.pairwise_of_runs hp hhooks hnext hruns).2.imp fun {j k} hlt ↦ ?_
    exact Token.apart_of_ne (Nat.ne_of_lt hlt)

theorem one_context_three_exits :
    let closed : Hook Unit :=
      ⟨.path "/closed", fun _ _ ↦ return .error (.app ⟨.authorization, "closed", []⟩)⟩
    let down : Hook Unit := ⟨.path "/down", fun _ _ ↦ return .error (.other "down" [])⟩
    let registry := HookRegistry.empty.register "door" (some ⟨[closed], [down]⟩)
    let next : Service Unit := fun _ ↦ return .text 200 "in"
    let first : Turn Unit := ⟨{ method := "GET", path := "/closed" }, World.start ()⟩
    let second : Turn Unit := ⟨{ method := "GET", path := "/down" }, first.left registry 30 next⟩
    let third : Turn Unit := ⟨{ method := "GET", path := "/" }, second.left registry 30 next⟩
    [first, second, third].map
      (fun k ↦ ((hookLayer registry 30 next k.request).outcome k.found).1.map (·.status)) =
        [.ok 403, .ok 500, .ok 200] ∧
      (∀ k ∈ [first, second, third],
        Lifetime registry 30 next k.request (k.context 30) k.found (k.left registry 30 next)) ∧
      [first, second, third].Pairwise fun j k ↦
        Token.Apart Unit (j.context 30).token (k.context 30).token := by
  intro closed down registry next first second third
  have hp : registry.hasHooks .before = true := rfl
  have hhooks (p : Phase) : ∀ x ∈ registry.placed p, x.hook.KeepsTokens := by
    intro x hx ctx payload w
    cases p with
    | before =>
      cases List.mem_singleton.1 hx
      exact Nat.le_refl _
    | after =>
      cases List.mem_singleton.1 hx
      exact Nat.le_refl _
  have hnext (forwarded : Request) : (next forwarded).KeepsTokens := fun _ ↦ Nat.le_refl _
  have hruns : Runs (Turn.Taken registry 30 next) [first, second, third] (World.start ())
      (third.left registry 30 next) :=
    .cons ⟨by decide, by decide, rfl⟩
      (.cons ⟨by decide, by decide, rfl⟩ (.cons ⟨by decide, by decide, rfl⟩ (.nil _)))
  exact ⟨by decide +kernel, one_context hp hhooks hnext hruns⟩

end Http

end FrontDoor
