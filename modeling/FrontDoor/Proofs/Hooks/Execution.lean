import FrontDoor.Proofs.Effect
import FrontDoor.Proofs.Hooks.Registration

namespace FrontDoor

variable {υ : Type}

/-- A hook and its place among those of its plugin. -/
structure PlacedHook (υ : Type) where
  pluginId : String
  index : Nat
  hook : Hook υ

namespace PlacedHook

def row (pluginId : String) (start : Nat) (hooks : List (Hook υ)) : List (PlacedHook υ) :=
  (hooks.zipIdx start).map fun h ↦ ⟨pluginId, h.2, h.1⟩

theorem row_cons (pluginId : String) (start : Nat) (hook : Hook υ) (hooks : List (Hook υ)) :
    row pluginId start (hook :: hooks) =
      ⟨pluginId, start, hook⟩ :: row pluginId (start + 1) hooks := by
  simp only [row, List.zipIdx_cons, List.map_cons]

def Passes (ctx : RequestContext) (payload : Payload) (x : PlacedHook υ) (w w' : World υ) : Prop :=
  (x.hook.call ctx payload).outcome w = (.ok (.ok ()), w')

end PlacedHook

inductive HookOutcome (υ : Type) where
  | passed
  | failed (hook : PlacedHook υ) (fault : Fault)
  | aborted (reason : Abort)

namespace HookOutcome

def result (p : Phase) : HookOutcome υ → Except Abort (Except PluginError Unit)
  | passed => .ok (.ok ())
  | failed x fault => .ok (.error (.hookFailed x.pluginId p x.index fault))
  | aborted reason => .error reason

end HookOutcome

/-- Hooks are called one after another, up to and including the first that does not succeed. As
handlers are arbitrary steps, the worlds between them account for every call. -/
inductive HooksRun (ctx : RequestContext) (payload : Payload) (due : List (PlacedHook υ))
    (w : World υ) :
    HookOutcome υ → World υ → Prop
  | passed {w' : World υ} :
    Runs (PlacedHook.Passes ctx payload) due w w' → HooksRun ctx payload due w .passed w'
  | failed {called rest : List (PlacedHook υ)} {x : PlacedHook υ} {fault : Fault} {w₁ w' : World υ} :
      due = called ++ x :: rest → Runs (PlacedHook.Passes ctx payload) called w w₁ →
      (x.hook.call ctx payload).outcome w₁ = (.ok (.error fault), w') →
      HooksRun ctx payload due w (.failed x fault) w'
  | aborted {called rest : List (PlacedHook υ)} {x : PlacedHook υ} {reason : Abort} {w₁ w' : World υ} :
      due = called ++ x :: rest → Runs (PlacedHook.Passes ctx payload) called w w₁ →
      (x.hook.call ctx payload).outcome w₁ = (.error reason, w') →
      HooksRun ctx payload due w (.aborted reason) w'

namespace HooksRun

variable {ctx : RequestContext} {payload : Payload}

theorem cons {x : PlacedHook υ} {due : List (PlacedHook υ)} {w w₁ w' : World υ} {o : HookOutcome υ}
    (hx : x.Passes ctx payload w w₁) (h : HooksRun ctx payload due w₁ o w') :
    HooksRun ctx payload (x :: due) w o w' := by
  cases h with
  | passed hr => exact .passed (.cons hx hr)
  | failed hd hr hf => exact .failed (by rw [hd, List.cons_append]) (.cons hx hr) hf
  | aborted hd hr ha => exact .aborted (by rw [hd, List.cons_append]) (.cons hx hr) ha

theorem total (ctx : RequestContext) (payload : Payload) (due : List (PlacedHook υ)) (w : World υ) :
    ∃ o w', HooksRun ctx payload due w o w' := by
  induction due generalizing w with
  | nil => exact ⟨.passed, w, .passed (.nil w)⟩
  | cons x due ih =>
    rcases hx : (x.hook.call ctx payload).outcome w with ⟨reason | fault | _, w₁⟩
    · exact ⟨.aborted reason, w₁, .aborted (List.nil_append _).symm (.nil w) hx⟩
    · exact ⟨.failed x fault, w₁, .failed (List.nil_append _).symm (.nil w) hx⟩
    · obtain ⟨o, w', h⟩ := ih w₁
      exact ⟨o, w', h.cons hx⟩

theorem mem_of_failed {due : List (PlacedHook υ)} {w w' : World υ} {x : PlacedHook υ} {fault : Fault}
    (h : HooksRun ctx payload due w (.failed x fault) w') : x ∈ due := by
  cases h with
  | failed hd => simp [hd]

theorem exists_mem_of_aborted {due : List (PlacedHook υ)} {w w' : World υ} {reason : Abort}
    (h : HooksRun ctx payload due w (.aborted reason) w') : ∃ x, x ∈ due := by
  cases h with
  | @aborted called rest x => exact ⟨x, by simp [*]⟩

end HooksRun

namespace HookRegistry

/-- All hooks of a phase in the order in which they stand. -/
def placed (r : HookRegistry υ) (p : Phase) : List (PlacedHook υ) :=
  (r.phase p).flatMap fun e ↦ PlacedHook.row e.pluginId 0 e.hooks

def due (r : HookRegistry υ) (p : Phase) (path method : String) : List (PlacedHook υ) :=
  (r.placed p).filter fun x ↦ x.hook.accepts path method

def callAll (p : Phase) (ctx : RequestContext) (payload : Payload) :
    List (PlacedHook υ) → Effect υ (Except PluginError Unit)
  | [] => return .ok ()
  | x :: rest => do
    match ← x.hook.call ctx payload with
    | .error fault => return .error (.hookFailed x.pluginId p x.index fault)
    | .ok _ => callAll p ctx payload rest

variable (p : Phase) (ctx : RequestContext) (path method : String) (payload : Payload)

theorem callAll_append (xs ys : List (PlacedHook υ)) :
    callAll p ctx payload (xs ++ ys) = (do
      match ← callAll p ctx payload xs with
      | .error e => return .error e
      | .ok _ => callAll p ctx payload ys) := by
  induction xs with
  | nil => simp [callAll]
  | cons x xs ih =>
    simp only [List.cons_append, callAll, bind_assoc]
    refine bind_congr fun r ↦ ?_
    cases r with
    | error fault => simp only [pure_bind]
    | ok _ => exact ih

theorem runHooks_eq (pluginId : String) (start : Nat) (hooks : List (Hook υ)) :
    runHooks p ctx path method payload pluginId start hooks =
      callAll p ctx payload
        ((PlacedHook.row pluginId start hooks).filter fun x ↦ x.hook.accepts path method) := by
  induction hooks generalizing start with
  | nil => rfl
  | cons hook hooks ih =>
    rw [PlacedHook.row_cons, List.filter_cons, runHooks]
    cases hook.accepts path method with
    | false => simpa using ih (start + 1)
    | true =>
      simp only [if_true, ih]
      refine bind_congr fun r ↦ ?_
      cases r <;> rfl

theorem runEntries_eq (entries : PhaseHooks υ) :
    runEntries p ctx path method payload entries =
      callAll p ctx payload ((entries.flatMap fun e ↦ PlacedHook.row e.pluginId 0 e.hooks).filter
        fun x ↦ x.hook.accepts path method) := by
  induction entries with
  | nil => rfl
  | cons e entries ih =>
    rw [List.flatMap_cons, List.filter_append, callAll_append, ← ih, ← runHooks_eq]
    refine bind_congr fun r ↦ ?_
    cases r <;> rfl

theorem outcome_callAll_append {called : List (PlacedHook υ)} {w w₁ : World υ}
    (h : Runs (PlacedHook.Passes ctx payload) called w w₁) (rest : List (PlacedHook υ)) :
    (callAll p ctx payload (called ++ rest)).outcome w = (callAll p ctx payload rest).outcome w₁ := by
  induction h with
  | nil => rfl
  | cons hx _ ih =>
    rw [List.cons_append, callAll, Effect.outcome_bind_of_ok hx]
    exact ih

theorem outcome_callAll {due : List (PlacedHook υ)} {w w' : World υ} {o : HookOutcome υ}
    (h : HooksRun ctx payload due w o w') :
    (callAll p ctx payload due).outcome w = (o.result p, w') := by
  cases h with
  | passed hr =>
    have h := outcome_callAll_append p ctx payload hr []
    rw [List.append_nil] at h
    exact h
  | failed hd hr hf =>
    rw [hd, outcome_callAll_append p ctx payload hr]
    exact Effect.outcome_bind_of_ok hf _
  | aborted hd hr ha =>
    rw [hd, outcome_callAll_append p ctx payload hr]
    exact Effect.outcome_bind_of_error ha _

theorem outcome_execute (r : HookRegistry υ) {w w' : World υ}
    {result : Except Abort (Except PluginError Unit)} :
    (r.execute p ctx path method payload).outcome w = (result, w') ↔
      ∃ o, HooksRun ctx payload (r.due p path method) w o w' ∧ result = o.result p := by
  have heq : r.execute p ctx path method payload = callAll p ctx payload (r.due p path method) :=
    runEntries_eq p ctx path method payload (r.phase p)
  rw [heq]
  constructor
  · intro h
    -- Some run exists, and its outcome is the one that is observed.
    obtain ⟨o, w₁, ho⟩ := HooksRun.total ctx payload (r.due p path method) w
    have h₁ := (outcome_callAll p ctx payload ho).symm.trans h
    cases h₁
    exact ⟨o, ho, rfl⟩
  · rintro ⟨o, ho, rfl⟩
    exact outcome_callAll p ctx payload ho

end HookRegistry

namespace History

/-- The order in which the hooks of a phase stand: plugins by their first registration that brought
any, and the hooks of each as they were registered. -/
def placed (h : History υ) (p : Phase) : List (PlacedHook υ) :=
  (h.plugins p).flatMap fun id ↦ PlacedHook.row id 0 (h.hooksOf p id)

def due (h : History υ) (p : Phase) (path method : String) : List (PlacedHook υ) :=
  (h.placed p).filter fun x ↦ x.hook.accepts path method

end History

namespace HookRegistry

end HookRegistry

end FrontDoor
