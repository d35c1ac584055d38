import FrontDoor.Proofs.Assembly.Descent
import FrontDoor.Proofs.HookLayer

namespace FrontDoor

variable {υ α β κ : Type} {c : Cell υ α} {w w₁ w₂ : World υ}

namespace Cell

/-- A cell holds the same in both worlds. -/
def Kept (c : Cell υ α) (w w' : World υ) : Prop := c.read w'.store = c.read w.store

theorem Kept.refl (w : World υ) : c.Kept w w := rfl

theorem Kept.trans (h : c.Kept w w₁) (h' : c.Kept w₁ w₂) : c.Kept w w₂ := Eq.trans h' h

theorem Kept.read_eq {a : α} (h : c.Kept w w₁) (hw : c.read w.store = a) :
    c.read w₁.store = a := Eq.trans h hw

theorem kept_logged (w : World υ) (events : List Log.Event) : c.Kept w (w.logged events) := rfl

theorem kept_cancel (w : World υ) (t : Token) : c.Kept w (w.cancel t) := by
  rw [Kept, World.cancel]
  split <;> rfl

/-- Writing one of the cells does not touch the other one. -/
def Apart (c : Cell υ α) (d : Cell υ β) : Prop := ∀ a s, d.read (c.write a s) = d.read s

theorem outcome_get (c : Cell υ α) (w : World υ) : c.get.outcome w = (.ok (c.read w.store), w) := rfl

def put (c : Cell υ α) (a : α) (w : World υ) : World υ := { w with store := c.write a w.store }

theorem read_put (c : Cell υ α) (a : α) (w : World υ) :
    c.read (c.put a w).store = a := c.read_write a w.store

end Cell

theorem Runs.kept {step : κ → World υ → World υ → Prop} {ks : List κ} (h : Runs step ks w w₁)
    (hstep : ∀ k ∈ ks, ∀ v v', step k v v' → c.Kept v v') : c.Kept w w₁ :=
  h.related .refl .trans hstep

namespace Effect

/-- A step leaves a cell as it was, however it ends. -/
def Keeps (c : Cell υ α) (body : Effect υ β) : Prop := ∀ w, c.Kept w (body.outcome w).2

theorem Keeps.kept {body : Effect υ β} {result : Except Abort β} (h : body.Keeps c)
    (hbody : body.outcome w = (result, w₁)) :
    c.Kept w w₁ := by
  have hw := h w
  rw [hbody] at hw
  exact hw

theorem keeps_pure (b : β) : (pure b : Effect υ β).Keeps c := fun _ ↦ rfl

theorem Keeps.bind {γ : Type} {x : Effect υ β} {f : β → Effect υ γ} (hx : x.Keeps c)
    (hf : ∀ b, (f b).Keeps c) :
    (x >>= f).Keeps c := by
  intro w
  rw [outcome_bind]
  rcases hstep : x.outcome w with ⟨e | b, w₁⟩
  · exact hx.kept hstep
  · exact (hx.kept hstep).trans (hf b w₁)

end Effect

def Hook.Keeps (c : Cell υ α) (h : Hook υ) : Prop := ∀ ctx payload, (h.call ctx payload).Keeps c

theorem kept_of_hooksRun {ctx : RequestContext} {payload : Payload} {due : List (PlacedHook υ)}
    {o : HookOutcome υ} (h : HooksRun ctx payload due w o w₁) (hdue : ∀ x ∈ due, x.hook.Keeps c) :
    c.Kept w w₁ := by
  have hpasses {called : List (PlacedHook υ)} {w₂ : World υ}
      (hr : Runs (PlacedHook.Passes ctx payload) called w w₂)
      (hcalled : ∀ x ∈ called, x ∈ due) : c.Kept w w₂ :=
    hr.kept fun x hx v v' hv ↦ (hdue x (hcalled x hx) ctx payload).kept hv
  cases h with
  | passed hr => exact hpasses hr fun x hx ↦ hx
  | failed hd hr hf =>
    subst hd
    have hlast := (hdue _ (List.mem_append_right _ List.mem_cons_self) ctx payload).kept hf
    exact (hpasses hr fun x hx ↦ List.mem_append_left _ hx).trans hlast
  | aborted hd hr ha =>
    subst hd
    have hlast := (hdue _ (List.mem_append_right _ List.mem_cons_self) ctx payload).kept ha
    exact (hpasses hr fun x hx ↦ List.mem_append_left _ hx).trans hlast

namespace Http

def Service.Keeps (c : Cell υ α) (service : Service υ) : Prop := ∀ req, (service req).Keeps c

structure MethodTable.Keeps (c : Cell υ α) (t : MethodTable υ) : Prop where
  service : ∀ m service, t.service? m = some service → Service.Keeps c service
  otherwise : Service.Keeps c t.otherwise

theorem MethodTable.Keeps.answering {t : MethodTable υ} (h : t.Keeps c) (method : String) :
    Service.Keeps c (t.answering method) := by
  rcases t.answering_cases method with hotherwise | ⟨m, hservice⟩
  · rw [hotherwise]
    exact h.otherwise
  · exact h.service m _ hservice

/-- Neither what an interceptor does with a request nor what it makes of the answer touches a cell. -/
structure Interceptor.Keeps (c : Cell υ α) (i : Interceptor υ) : Prop where
  asked : ∀ req, (i req).Keeps c
  back : ∀ req w forwarded back w', (i req).outcome w = (.ok (.pass forwarded back), w') →
    ∀ answer, (back answer).Keeps c

/-- Middleware passes a request on, one after another; the last one to a service, which gets the
request in this form and finds this world. -/
inductive PassedOn (of : Middleware (host υ) → Interceptor υ) :
    List (Middleware (host υ)) → Request → World υ → Request → World υ → Prop
  | nil (req : Request) (w : World υ) : PassedOn of [] req w req w
  | cons {mw : Middleware (host υ)} {ms : List (Middleware (host υ))} {req forwarded req' : Request}
    {w w₁ w' : World υ}
      {back : Except Abort Response → Effect υ Response} :
      (of mw req).outcome w = (.ok (.pass forwarded back), w₁) → PassedOn of ms forwarded w₁ req' w' →
      PassedOn of (mw :: ms) req w req' w'

variable {of : Middleware (host υ) → Interceptor υ} {ms : List (Middleware (host υ))}
  {req req' : Request}

theorem kept_of_passedOn (h : PassedOn of ms req w req' w₁) (hms : ∀ mw ∈ ms, (of mw).Keeps c) :
    c.Kept w w₁ := by
  induction h with
  | nil => exact .refl _
  | @cons mw _ req _ _ _ _ _ _ hpass _ ih =>
    have hhead := ((hms mw List.mem_cons_self).asked req).kept hpass
    exact hhead.trans (ih fun a ha ↦ hms a (List.mem_cons_of_mem mw ha))

theorem exists_outcome_of_passedOn (h : PassedOn of ms req w req' w₁)
    (hms : ∀ mw ∈ ms, (of mw).Keeps c) (service : Service υ) :
    ∃ result w', (around (fun mw ↦ (of mw).layer) ms service req).outcome w = (result, w') ∧
      c.Kept ((service req').outcome w₁).2 w' := by
  induction h with
  | nil req w => exact ⟨_, _, rfl, .refl _⟩
  | @cons mw ms req forwarded _ w v _ back hpass _ ih =>
    obtain ⟨behind, w', hbehind, hkept⟩ := ih fun a ha ↦ hms a (List.mem_cons_of_mem mw ha)
    have hattempt : Effect.outcome (around (fun mw ↦ (of mw).layer) ms service forwarded).attempt v =
        (.ok behind, w') := by
      rw [Effect.outcome_attempt, hbehind]
    have hback := (hms mw List.mem_cons_self).back req w forwarded back v hpass behind
    refine ⟨((back behind).outcome w').1, ((back behind).outcome w').2, ?_, hkept.trans (hback w')⟩
    exact (Effect.outcome_bind_of_ok hpass _).trans (Effect.outcome_bind_of_ok hattempt _)

theorem exists_outcome_of_not_passedOn (h : ¬ ∃ req' w₁, PassedOn of ms req w req' w₁)
    (hms : ∀ mw ∈ ms, (of mw).Keeps c) :
    ∃ result w',
      (∀ service, (around (fun mw ↦ (of mw).layer) ms service req).outcome w = (result, w')) ∧
      c.Kept w w' := by
  induction ms generalizing req w with
  | nil => exact absurd ⟨req, w, .nil req w⟩ h
  | cons mw ms ih =>
    have hmw := hms mw List.mem_cons_self
    rcases hasked : (of mw req).outcome w with ⟨reason | response | ⟨forwarded, back⟩, v⟩
    · exact ⟨_, v, fun service ↦ Effect.outcome_bind_of_error hasked _, (hmw.asked req).kept hasked⟩
    · exact ⟨_, v, fun service ↦ Effect.outcome_bind_of_ok hasked _, (hmw.asked req).kept hasked⟩
    · have hrest : ¬ ∃ req' w₁, PassedOn of ms forwarded v req' w₁ := by
        rintro ⟨req', w₁, hpassed⟩
        exact h ⟨req', w₁, .cons hasked hpassed⟩
      obtain ⟨behind, w', hbehind, hkept⟩ := ih hrest fun a ha ↦ hms a (List.mem_cons_of_mem mw ha)
      refine ⟨((back behind).outcome w').1, ((back behind).outcome w').2, fun service ↦ ?_, ?_⟩
      · have hattempt : Effect.outcome
            (around (fun mw ↦ (of mw).layer) ms service forwarded).attempt v = (.ok behind, w') := by
          rw [Effect.outcome_attempt, hbehind service]
        exact (Effect.outcome_bind_of_ok hasked _).trans (Effect.outcome_bind_of_ok hattempt _)
      · have hback := hmw.back req w forwarded back v hasked behind
        exact (((hmw.asked req).kept hasked).trans hkept).trans (hback w')

end Http

end FrontDoor
