import FrontDoor.Proofs.Manager.Start

namespace FrontDoor

variable {H : Host} {υ : Type}

inductive Ask where
  | start
  | endpoints
  | hooks
  | middleware
deriving DecidableEq

structure PluginCall where
  position : ℕ
  ask : Ask
deriving DecidableEq

namespace PluginCall

def oneRound (k : ℕ) : List PluginCall := [⟨k, .start⟩, ⟨k, .endpoints⟩, ⟨k, .hooks⟩, ⟨k, .middleware⟩]

def rounds (n : ℕ) : List PluginCall := (List.range n).flatMap oneRound

def lastCalls (k : ℕ) : PluginError → List PluginCall
  | .endpointConflict .. => [⟨k, .start⟩, ⟨k, .endpoints⟩]
  | _ => [⟨k, .start⟩]

end PluginCall

def Plugin.asked (p : Plugin H υ) (ctx : H.Context) : Ask → World υ → World υ
  | .start, w => ((p.start ctx).outcome w).2
  | .endpoints, w => (p.endpoints.outcome w).2
  | .hooks, w => (p.hooks.outcome w).2
  | .middleware, w => (p.middleware.outcome w).2

namespace Manager

open Contribution PluginCall

variable {ps : PluginList H υ} {ctx : H.Context} {w w' w₁ : World υ} {m m' : Manager H υ}
  {cs : List (Contribution H υ)} {calls : List PluginCall} {p : Plugin H υ} {k : ℕ}

def Calls (ctx : H.Context) (ps : PluginList H υ) (call : PluginCall) (w w' : World υ) : Prop :=
  ∃ p events, ps[call.position]? = some p ∧ w' = (p.asked ctx call.ask w).logged events

def NotedIn (ctx : H.Context) (ps : PluginList H υ) (cell : Cell υ (List PluginCall)) : Prop :=
  ∀ k p, ps[k]? = some p →
    ∀ ask w, cell.read (p.asked ctx ask w).store = cell.read w.store ++ [⟨k, ask⟩]

/-- Exactly these calls lead from one world to the other, log events apart, and plugins that note
their calls note exactly these. -/
structure Asks (ctx : H.Context) (ps : PluginList H υ) (calls : List PluginCall) (w w' : World υ) :
    Prop where
  runs : ∃ w₁ events, Runs (Calls ctx ps) calls w w₁ ∧ w' = w₁.logged events
  noted : ∀ cell, NotedIn ctx ps cell → cell.read w'.store = cell.read w.store ++ calls

theorem read_of_runs {cell : Cell υ (List PluginCall)} (h : Runs (Calls ctx ps) calls w w')
    (hcell : NotedIn ctx ps cell) : cell.read w'.store = cell.read w.store ++ calls := by
  induction h with
  | nil => exact (List.append_nil _).symm
  | cons hcall _ ih =>
    obtain ⟨p, events, hp, rfl⟩ := hcall
    rw [ih, World.logged, hcell _ p hp, List.append_assoc]
    rfl

theorem asks_of_runs (h : Runs (Calls ctx ps) calls w w₁) (events : List Log.Event) :
    Asks ctx ps calls w (w₁.logged events) where
  runs := ⟨w₁, events, h, rfl⟩
  noted cell hcell := by
    rw [← read_of_runs h hcell]
    rfl

theorem rounds_succ (n : ℕ) : rounds (n + 1) = rounds n ++ oneRound n := by
  rw [rounds, List.range_succ, List.flatMap_append, List.flatMap_singleton]
  rfl

theorem calls_of_eq {α : Type} {body : Effect υ α} {result : Except Abort α} {ask : Ask}
    (hp : ps[k]? = some p) (hbody : body.outcome w = (result, w₁))
    (hasked : p.asked ctx ask w = (body.outcome w).2)
    (events : List Log.Event) :
    Calls ctx ps ⟨k, ask⟩ w (w₁.logged events) := by
  refine ⟨p, events, hp, ?_⟩
  rw [hasked, hbody]

theorem runs_of_given {c : Contribution H υ} (hc : ps[k]? = some c.plugin) (h : Given ctx c w w') :
    Runs (Calls ctx ps) (oneRound k) w w' := by
  obtain ⟨hs, he, hb, hm⟩ := h
  refine .cons (calls_of_eq hc hs rfl []) ?_
  refine .cons (calls_of_eq hc he rfl []) ?_
  refine .cons (calls_of_eq hc hb rfl (hookNotes c.plugin.id c.hooks)) ?_
  exact .cons (calls_of_eq hc hm rfl _) (.nil _)

theorem runs_rounds (h : Runs (Given ctx) cs w w') (hps : cs.map (·.plugin) <+: ps) :
    Runs (Calls ctx ps) (rounds cs.length) w w' := by
  induction cs using List.reverseRecOn generalizing w' with
  | nil =>
    cases h
    exact .nil w
  | append_singleton cs c ih =>
    obtain ⟨w₁, hcs, hc⟩ := h.of_append
    rw [List.map_append] at hps
    cases hc with
    | cons hgiven hnil =>
      cases hnil
      have hget : ps[cs.length]? = some c.plugin := by
        obtain ⟨rest, rfl⟩ := hps
        simp
      have hcalls := ih hcs ((List.prefix_append _ _).trans hps)
      rw [List.length_append, List.length_singleton, rounds_succ]
      exact hcalls.append (runs_of_given hget hgiven)

theorem asks_of_completed (h : ((ofPlugins ps).start ctx).outcome w = (.ok (m, .ok ()), w')) :
    Asks ctx ps (rounds ps.length) w w' := by
  obtain ⟨m₁, w₁, ha, -, rfl⟩ := outcome_start_eq_ok.1 h
  obtain ⟨cs, hcs, hruns, -, -⟩ := adoptAll_eq_ok_iff.1 ha
  have hlength : cs.length = ps.length := by rw [← hcs, List.length_map]
  have hcalls := runs_rounds hruns ⟨[], by rw [List.append_nil, hcs]⟩
  rw [hlength] at hcalls
  exact asks_of_runs hcalls _

theorem FailsAt.asks {e : PluginError} (h : FailsAt ctx ps w k m e w') :
    Asks ctx ps (rounds k ++ lastCalls k e) w w' := by
  have hlength {cs : List (Contribution H υ)} {p : Plugin H υ} (hget : ps[k]? = some p)
      (hcon : Contributed ctx (ps.take k) w cs) : cs.length = k := by
    have hk := (List.getElem?_eq_some_iff.1 hget).1
    have hmap := congrArg List.length hcon.plugins
    simp only [List.length_map, List.length_take] at hmap
    omega
  cases h with
  | @start p cs w₁ _ _ fault hget hcon hruns hs =>
    have hcalls := runs_rounds hruns (hcon.plugins ▸ ps.take_prefix k)
    rw [hlength hget hcon] at hcalls
    have hlast : Runs (Calls ctx ps) [⟨k, .start⟩] w₁ w' := .cons (calls_of_eq hget hs rfl []) (.nil _)
    exact asks_of_runs (hcalls.append hlast) []
  | @conflict p cs w₁ w₂ _ _ d path c hget hcon hruns hs he =>
    have hcalls := runs_rounds hruns (hcon.plugins ▸ ps.take_prefix k)
    rw [hlength hget hcon] at hcalls
    have hlast : Runs (Calls ctx ps) [⟨k, .start⟩, ⟨k, .endpoints⟩] w₁ w' := by
      refine .cons (calls_of_eq hget hs rfl []) ?_
      exact .cons (calls_of_eq hget he rfl []) (.nil _)
    exact asks_of_runs (hcalls.append hlast) []

theorem exists_failsAt {e : PluginError}
    (h : ((ofPlugins ps).start ctx).outcome w = (.ok (m, .error e), w')) :
    ∃ k, FailsAt ctx ps w k m e w' := by
  obtain ⟨m₁, ha, rfl⟩ := outcome_start_eq_error.1 h
  obtain ⟨cs, p, rest, w₁, hps, hruns, hfit, hrejects⟩ := adoptAll_eq_error ha
  exact ⟨cs.length, failsAt_of_rejects hps hruns hfit.noSharedPath hrejects⟩

/-- An attempt to initialize a manager that returns, and the worlds before and after it. -/
structure Attempt (H : Host) (υ : Type) where
  context : H.Context
  before : World υ
  result : Except PluginError Unit
  after : World υ

/-- Attempts with one manager, one after another; whatever happens between them, it does not happen
to the manager. -/
inductive Attempts : Manager H υ → List (Attempt H υ) → Manager H υ → Prop
  | nil (m : Manager H υ) : Attempts m [] m
  | cons {m m₁ m₂ : Manager H υ} {a : Attempt H υ} {as : List (Attempt H υ)} :
      (m.start a.context).outcome a.before = (.ok (m₁, a.result), a.after) → Attempts m₁ as m₂ →
      Attempts m (a :: as) m₂

theorem outcome_start_of_started (h : m.state ≠ .uninitialized) (ctx : H.Context) (w : World υ) :
    (m.start ctx).outcome w = (.ok (m, .error .alreadyInitialized), w) := by
  rw [start, if_pos h]
  rfl

theorem Attempts.refused {as : List (Attempt H υ)} (h : Attempts m as m')
    (hm : m.state ≠ .uninitialized) :
    m' = m ∧ ∀ a ∈ as, a.result = .error .alreadyInitialized ∧ a.after = a.before := by
  induction h with
  | nil m => exact ⟨rfl, by simp⟩
  | @cons m m₁ m₂ a as hstart _ ih =>
    have heq := (outcome_start_of_started hm a.context a.before).symm.trans hstart
    obtain ⟨hresult, hworld⟩ := Prod.mk.inj heq
    obtain ⟨rfl, hrefused⟩ := Prod.mk.inj (Except.ok.inj hresult)
    obtain ⟨hsame, hlater⟩ := ih hm
    refine ⟨hsame, fun b hb ↦ ?_⟩
    rcases List.mem_cons.1 hb with rfl | hb
    · exact ⟨hrefused.symm, hworld.symm⟩
    · exact hlater b hb

theorem start_cases {result : Except PluginError Unit}
    (h : ((ofPlugins ps).start ctx).outcome w = (.ok (m, result), w')) :
    (m.state = .initialized ∧ result = .ok ()) ∨ (m.state = .failed ∧ ∃ e, result = .error e) := by
  cases result with
  | ok =>
    obtain ⟨m₁, w₁, -, rfl, -⟩ := outcome_start_eq_ok.1 h
    exact .inl ⟨rfl, rfl⟩
  | error e =>
    obtain ⟨m₁, -, rfl⟩ := outcome_start_eq_error.1 h
    exact .inr ⟨rfl, e, rfl⟩

/-- Of any attempts to initialize a manager only the first has an effect. It leaves the manager
initialized exactly when it succeeds and failed exactly when it does not. It asks the plugins in
order, each to start and then for its endpoints, hooks and middleware, up to the end of the list or
to the call at which it fails. All later attempts are refused, at whatever time and with whatever
context; they ask no plugin anything and leave the manager as it is. -/
theorem single_shot (ps : PluginList H υ) (first : Attempt H υ) (later : List (Attempt H υ))
    (m : Manager H υ) (h : Attempts (ofPlugins ps) (first :: later) m) :
    Attempts (ofPlugins ps) [first] m ∧ (ofPlugins ps).state = .uninitialized ∧
    (m.state = .initialized ↔ first.result = .ok ()) ∧
    (m.state = .failed ↔ ∃ e, first.result = .error e) ∧
    (first.result = .ok () → Asks first.context ps (rounds ps.length) first.before first.after) ∧
    (∀ e, first.result = .error e → ∃ k, FailsAt first.context ps first.before k m e first.after ∧
      Asks first.context ps (rounds k ++ lastCalls k e) first.before first.after) ∧
    (∀ a ∈ later, a.result = .error .alreadyInitialized ∧ a.after = a.before) ∧
    ∀ ctx w, (m.start ctx).outcome w = (.ok (m, .error .alreadyInitialized), w) := by
  cases h with
  | @cons _ m₁ _ _ _ hfirst hlater =>
    have hended := start_cases hfirst
    have hstarted : m₁.state ≠ .uninitialized := by
      rcases hended with ⟨hstate, -⟩ | ⟨hstate, -⟩ <;> simp [hstate]
    obtain ⟨rfl, hrefused⟩ := hlater.refused hstarted
    refine ⟨.cons hfirst (.nil m), rfl, ?_, ?_, ?_, ?_, hrefused, outcome_start_of_started hstarted⟩
    · rcases hended with ⟨hstate, hresult⟩ | ⟨hstate, e, hresult⟩ <;> simp [hstate, hresult]
    · rcases hended with ⟨hstate, hresult⟩ | ⟨hstate, e, hresult⟩ <;> simp [hstate, hresult]
    · intro hok
      rw [hok] at hfirst
      exact asks_of_completed hfirst
    · intro e he
      rw [he] at hfirst
      obtain ⟨k, hk⟩ := exists_failsAt hfirst
      exact ⟨k, hk, hk.asks⟩

def notes : Cell (List PluginCall) (List PluginCall) :=
  ⟨id, fun a _ ↦ a, fun _ _ ↦ rfl, fun _ _ _ ↦ rfl⟩

def notingPlugin (k : ℕ) (path : String) : Plugin textHost (List PluginCall) :=
  let note (ask : Ask) : Effect (List PluginCall) Unit := do notes.set ((← notes.get) ++ [⟨k, ask⟩])
  { id := toString k
    start := fun _ ↦ do note .start; return .ok ()
    endpoints := do note .endpoints; return Dict.empty.insert path ""
    hooks := do note .hooks; return none
    middleware := do note .middleware; return [] }

def rivals : PluginList textHost (List PluginCall) :=
  [notingPlugin 0 "/x", notingPlugin 1 "/x", notingPlugin 2 "/y"]

theorem notedIn_rivals : NotedIn () rivals notes := by
  intro k p hp ask w
  match k, hp with
  | 0, hp | 1, hp | 2, hp =>
    cases hp
    cases ask <;> rfl

theorem single_shot_rivals :
    ∃ (first second : Attempt textHost (List PluginCall)) (m : Manager textHost (List PluginCall)),
      Attempts (ofPlugins rivals) [first, second] m ∧
      first.result = .error (.endpointConflict "/x" "1" "0") ∧
        m.state = .failed ∧
        first.after.store = first.before.store ++ (oneRound 0 ++ [⟨1, .start⟩, ⟨1, .endpoints⟩]) ∧
        second.result = .error .alreadyInitialized ∧ second.after = second.before := by
  have hattempt : ∃ m w, ((ofPlugins rivals).start ()).outcome (.start []) =
      (.ok (m, .error (.endpointConflict "/x" "1" "0")), w) := ⟨_, _, rfl⟩
  obtain ⟨m, w, hfirst⟩ := hattempt
  have hstarted : m.state ≠ .uninitialized := by
    rcases start_cases hfirst with ⟨hstate, -⟩ | ⟨hstate, -⟩ <;> simp [hstate]
  let first : Attempt textHost (List PluginCall) :=
    ⟨(), .start [], .error (.endpointConflict "/x" "1" "0"), w⟩
  let second : Attempt textHost (List PluginCall) :=
    ⟨(), .start [], .error .alreadyInitialized, .start []⟩
  have hattempts : Attempts (ofPlugins rivals) [first, second] m :=
    .cons hfirst (.cons (outcome_start_of_started hstarted () _) (.nil m))
  obtain ⟨-, -, -, hfailed, -, hfails, hrefused, -⟩ := single_shot rivals first [second] m hattempts
  obtain ⟨k, hk, hasks⟩ := hfails _ rfl
  obtain ⟨hresult, hworld⟩ := hrefused second List.mem_cons_self
  have hposition : k = 1 := by
    generalize he : PluginError.endpointConflict "/x" "1" "0" = e at hk
    cases hk with
    | start => cases he
    | conflict hget =>
      obtain ⟨-, hid, -⟩ := PluginError.endpointConflict.inj he
      match k, hget with
      | 0, hget | 2, hget =>
        cases hget
        revert hid
        decide
      | 1, _ => rfl
  subst hposition
  exact ⟨first, second, m, hattempts, rfl, hfailed.2 ⟨_, rfl⟩, hasks.noted notes notedIn_rivals,
    hresult, hworld⟩

end Manager

end FrontDoor
