/-!
# Actions on a state

An action changes a state and then answers or fails; a failure keeps the state that was reached.
Actions on a part of a state act on the whole through `Action.within`.
Specification: `SPEC_FULL.md` §5.
-/

namespace DebugProbe

/-- A step on a state `σ` that answers an `α` or fails with an `ε`. -/
abbrev Action (σ ε α : Type) := ExceptT ε (StateM σ) α

namespace Action

variable {σ τ ε ε' α : Type}

/-- The action with a given outcome and next state. -/
def ofFun (step : σ → Except ε α × σ) : Action σ ε α := fun state ↦ step state

/-- Outcome and next state of an action. -/
def outcome (action : Action σ ε α) (state : σ) : Except ε α × σ := action state

/-- The action with its failures renamed. -/
def mapError (rename : ε → ε') (action : Action σ ε α) : Action σ ε' α :=
  ofFun fun state ↦
    match action.outcome state with
    | (.ok value, next) => (.ok value, next)
    | (.error error, next) => (.error (rename error), next)

/-- The action with its outcome made a value, so that it cannot fail. -/
def attempt (action : Action σ ε α) : Action σ ε' (Except ε α) :=
  ofFun fun state ↦
    let (result, next) := action.outcome state
    (.ok result, next)

/-- The action on a part of a larger state. -/
def within (part : τ → σ) (replace : σ → τ → τ) (action : Action σ ε α) : Action τ ε α :=
  ofFun fun state ↦
    let (result, next) := action.outcome (part state)
    (result, replace next state)

/-- Changes the state. -/
def update (change : σ → σ) : Action σ ε Unit := ofFun fun state ↦ (.ok (), change state)

/-- The value of an outcome, or its failure. -/
def ofExcept (result : Except ε α) : Action σ ε α := ofFun fun state ↦ (result, state)

/-- Runs the action and, if it fails, changes the state before failing. -/
def onError (action : Action σ ε α) (recover : ε → σ → σ) : Action σ ε α :=
  ofFun fun state ↦
    match action.outcome state with
    | (.ok value, next) => (.ok value, next)
    | (.error error, next) => (.error error, recover error next)

@[simp] theorem outcome_ofFun (step : σ → Except ε α × σ) (state : σ) :
    (ofFun step).outcome state = step state := rfl

@[simp] theorem outcome_pure (value : α) (state : σ) :
    outcome (pure value : Action σ ε α) state = (.ok value, state) := rfl

@[simp] theorem outcome_throw (error : ε) (state : σ) :
    outcome (throw error : Action σ ε α) state = (.error error, state) := rfl

/-- A sequence of two actions stops at the first failure. -/
theorem outcome_bind {β : Type} (action : Action σ ε α) (next : α → Action σ ε β) (state : σ) :
    outcome (action >>= next) state =
      match action.outcome state with
      | (.ok value, after) => (next value).outcome after
      | (.error error, after) => (.error error, after) := by
  show (ExceptT.bindCont next (action state).1 : StateM σ (Except ε β)) (action state).2 = _
  simp only [outcome]
  split <;> rename_i h <;> rw [h] <;> rfl

end Action

end DebugProbe
