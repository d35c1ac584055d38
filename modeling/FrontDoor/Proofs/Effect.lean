import FrontDoor.Effect

namespace FrontDoor

variable {υ α β κ : Type}

namespace World

def logged (w : World υ) (events : List Log.Event) : World υ := { w with events := events ++ w.events }

theorem logged_logged (w : World υ) (earlier later : List Log.Event) :
    (w.logged earlier).logged later = w.logged (later ++ earlier) := by
  simp only [logged, List.append_assoc]

end World

namespace Effect

def outcome (body : Effect υ α) (w : World υ) : Except Abort α × World υ := body w

theorem outcome_bind (x : Effect υ α) (f : α → Effect υ β) (w : World υ) :
    outcome (x >>= f) w = match x.outcome w with
      | (.ok a, w₁) => (f a).outcome w₁
      | (.error e, w₁) => (.error e, w₁) := by
  change ExceptT.bind x f w = _
  simp only [ExceptT.bind, ExceptT.mk, bind, StateT.bind, outcome]
  cases x w with
  | mk result w₁ => cases result <;> rfl

theorem outcome_bind_of_ok {x : Effect υ α} {w w₁ : World υ} {a : α} (h : x.outcome w = (.ok a, w₁))
    (f : α → Effect υ β) : outcome (x >>= f) w = (f a).outcome w₁ := by
  rw [outcome_bind, h]

theorem outcome_bind_of_error {x : Effect υ α} {w w₁ : World υ} {e : Abort}
    (h : x.outcome w = (.error e, w₁)) (f : α → Effect υ β) :
    outcome (x >>= f) w = (.error e, w₁) := by
  rw [outcome_bind, h]

theorem outcome_bind_eq_ok {x : Effect υ α} {f : α → Effect υ β} {w w₂ : World υ} {b : β} :
    outcome (x >>= f) w = (.ok b, w₂) ↔
      ∃ a w₁, x.outcome w = (.ok a, w₁) ∧ (f a).outcome w₁ = (.ok b, w₂) := by
  rw [outcome_bind]
  rcases x.outcome w with ⟨e | a, w₁⟩
  · simp
  · constructor
    · intro h
      exact ⟨a, w₁, rfl, h⟩
    · rintro ⟨a', w', h, h'⟩
      cases h
      exact h'

theorem outcome_now (w : World υ) : outcome now w = (.ok w.clock, w) := rfl

theorem outcome_newToken (w : World υ) :
    outcome newToken w = (.ok ⟨[w.tokens]⟩, { w with tokens := w.tokens + 1 }) := rfl

theorem outcome_log (level : Log.Level) (component : Log.Component) (message : String)
    (fields : List (String × Json)) (w : World υ) :
    outcome (log level component message fields) w =
      (.ok (), w.logged [⟨level, component, message, fields⟩]) := rfl

theorem outcome_cancelling (t : Token) (body : Effect υ α) (w : World υ) :
    outcome (cancelling t body) w = ((body.outcome w).1, (body.outcome w).2.cancel t) := rfl

/-- The effect comes to a value, and nothing but log events is left behind. -/
def Yields (body : Effect υ α) (a : α) : Prop :=
  ∀ w, ∃ events, body.outcome w = (.ok a, w.logged events)

theorem Yields.unique {body : Effect υ α} {a b : α} (h : body.Yields a) (h' : body.Yields b)
    (w : World υ) : a = b := by
  obtain ⟨_, h⟩ := h w
  obtain ⟨_, h'⟩ := h' w
  exact Except.ok.inj (Prod.mk.inj (h.symm.trans h')).1

theorem yields_pure (a : α) : Yields (pure a : Effect υ α) a := fun _ ↦ ⟨[], rfl⟩

theorem yields_log (level : Log.Level) (component : Log.Component) (message : String)
    (fields : List (String × Json)) : Yields (log level component message fields : Effect υ Unit) () :=
  fun w ↦ ⟨_, outcome_log level component message fields w⟩

theorem Yields.bind {x : Effect υ α} {f : α → Effect υ β} {a : α} {b : β} (hx : x.Yields a)
    (hf : (f a).Yields b) :
    (x >>= f).Yields b := by
  intro w
  obtain ⟨earlier, hx⟩ := hx w
  obtain ⟨later, hf⟩ := hf (w.logged earlier)
  exact ⟨later ++ earlier, by rw [outcome_bind_of_ok hx, hf, World.logged_logged]⟩

end Effect

/-- Steps taken one after another lead from one world to another. -/
inductive Runs (step : κ → World υ → World υ → Prop) : List κ → World υ → World υ → Prop
  | nil (w : World υ) : Runs step [] w w
  | cons {k : κ} {ks : List κ} {w w₁ w₂ : World υ} :
      step k w w₁ → Runs step ks w₁ w₂ → Runs step (k :: ks) w w₂

namespace Runs

variable {step : κ → World υ → World υ → Prop} {ks ls : List κ} {w w₂ : World υ}

theorem exists_step_of_mem {k : κ} (h : Runs step ks w w₂) (hk : k ∈ ks) : ∃ v v', step k v v' := by
  induction h with
  | nil => cases hk
  | cons hs _ ih =>
    rcases List.mem_cons.1 hk with rfl | hk
    · exact ⟨_, _, hs⟩
    · exact ih hk

theorem related {R : World υ → World υ → Prop} (hrefl : ∀ v, R v v)
    (htrans : ∀ {u v v'}, R u v → R v v' → R u v') (h : Runs step ks w w₂)
    (hstep : ∀ k ∈ ks, ∀ v v', step k v v' → R v v') : R w w₂ := by
  induction h with
  | nil => exact hrefl _
  | cons hs _ ih =>
    have hhead := hstep _ List.mem_cons_self _ _ hs
    exact htrans hhead (ih fun k hk ↦ hstep k (List.mem_cons_of_mem _ hk))

theorem imp {step' : κ → World υ → World υ → Prop} (h : ∀ k v v', step k v v' → step' k v v')
    (hr : Runs step ks w w₂) :
    Runs step' ks w w₂ := by
  induction hr with
  | nil w => exact .nil w
  | cons hk _ ih => exact .cons (h _ _ _ hk) ih

theorem map {f : α → κ} {as : List α}
    (h : Runs (fun a ↦ step (f a)) as w w₂) : Runs step (as.map f) w w₂ := by
  induction h with
  | nil w => exact .nil w
  | cons hs _ ih => exact .cons hs ih

theorem append {w₁ : World υ} (h : Runs step ks w w₁) (h' : Runs step ls w₁ w₂) :
    Runs step (ks ++ ls) w w₂ := by
  induction h with
  | nil => exact h'
  | cons hs _ ih => exact .cons hs (ih h')

theorem of_append (h : Runs step (ks ++ ls) w w₂) : ∃ w₁, Runs step ks w w₁ ∧ Runs step ls w₁ w₂ := by
  induction ks generalizing w with
  | nil => exact ⟨w, .nil w, h⟩
  | cons k ks ih =>
    cases h with
    | cons hs ht =>
      obtain ⟨w₁, hk, hl⟩ := ih ht
      exact ⟨w₁, .cons hs hk, hl⟩

end Runs

end FrontDoor
