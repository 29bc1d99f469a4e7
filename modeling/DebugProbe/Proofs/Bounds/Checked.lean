import DebugProbe.Action

/-!
# Actions that check their bounds

The library computes with total functions: a position past the end reads as zero, a range past the
end is cut, and a difference stops at zero. A checked action takes none of these liberties. Where it
reaches outside of what is there it has no outcome at all, and neither has anything that it is part
of. An action keeps its bounds if a checked action in its place has the same outcome everywhere.
-/

namespace DebugProbe

/-- An action that has no outcome if it reaches outside of what is there. -/
abbrev Checked (σ ε α : Type) := ExceptT ε (StateT σ Option) α

namespace Checked

variable {σ τ ε ε' α β : Type}

/-- Outcome and next state of a checked action that stays inside. -/
def outcome? (checked : Checked σ ε α) (state : σ) : Option (Except ε α × σ) := checked state

/-- The checked action with a given outcome. -/
def ofFun (step : σ → Option (Except ε α × σ)) : Checked σ ε α := fun state ↦ step state

/-- An action in which nothing needs to be checked. -/
def ofAction (action : Action σ ε α) : Checked σ ε α :=
  ofFun fun state ↦ some (action.outcome state)

/-- The checked action with its failures renamed. -/
def mapError (rename : ε → ε') (checked : Checked σ ε α) : Checked σ ε' α :=
  ofFun fun state ↦ (checked.outcome? state).map fun
    | (.ok value, next) => (.ok value, next)
    | (.error error, next) => (.error (rename error), next)

/-- The checked action with its outcome made a value, so that it cannot fail. -/
def attempt (checked : Checked σ ε α) : Checked σ ε' (Except ε α) :=
  ofFun fun state ↦ (checked.outcome? state).map fun (result, next) ↦ (.ok result, next)

/-- The checked action on a part of a larger state. -/
def within (part : τ → σ) (replace : σ → τ → τ) (checked : Checked σ ε α) : Checked τ ε α :=
  ofFun fun state ↦
    (checked.outcome? (part state)).map fun (result, next) ↦ (result, replace next state)

/-- Runs the checked action and, if it fails, changes the state before failing. -/
def onError (checked : Checked σ ε α) (recover : ε → σ → σ) : Checked σ ε α :=
  ofFun fun state ↦ (checked.outcome? state).map fun
    | (.ok value, next) => (.ok value, next)
    | (.error error, next) => (.error error, recover error next)

/-- The value of an outcome, or its failure. -/
def ofExcept (result : Except ε α) : Checked σ ε α := ofAction (Action.ofExcept result)

/-- Changes the state. -/
def update (change : σ → σ) : Checked σ ε Unit := ofAction (Action.update change)

/-! ### What is checked -/

/-- A value that must be there. -/
def found (value? : Option α) : Checked σ ε α :=
  ofFun fun state ↦ value?.map fun value ↦ (.ok value, state)

/-- Goes on only where a condition holds. -/
def demand (condition : Prop) [Decidable condition] : Checked σ ε (PLift condition) :=
  found (if held : condition then some ⟨held⟩ else none)

/-- The item at a position, which must be there. -/
def item (items : List α) (position : Nat) : Checked σ ε α := found items[position]?

/-- The items from `start` on and before `stop`, a range that must lie inside. -/
def part (items : List α) (start stop : Nat) : Checked σ ε (List α) :=
  found (if start ≤ stop ∧ stop ≤ items.length then some ((items.drop start).take (stop - start))
    else none)

/-- The difference of two numbers, the second of which must not be the larger one. -/
def minus (number less : Nat) : Checked σ ε Nat :=
  found (if less ≤ number then some (number - less) else none)

/-- A sequence of two checked actions stops at the first failure. -/
theorem outcome?_bind (checked : Checked σ ε α) (next : α → Checked σ ε β) (state : σ) :
    outcome? (checked >>= next) state =
      (checked.outcome? state).bind fun
        | (.ok value, after) => (next value).outcome? after
        | (.error error, after) => some (.error error, after) := by
  show (checked state).bind (fun ran ↦ (ExceptT.bindCont next ran.1 : StateT σ Option _) ran.2) = _
  congr 1
  funext ran
  rcases ran with ⟨result, after⟩
  cases result <;> rfl

/-- What is there is found, and nothing changes. -/
theorem outcome?_found_bind {value? : Option α} {value : α} (there : value? = some value)
    (next : α → Checked σ ε β) (state : σ) :
    outcome? (found value? >>= next) state = (next value).outcome? state := by
  rw [outcome?_bind, there]
  rfl

/-! ### Actions that keep their bounds -/

/-- From a state the checked action stays inside and does what the action does. -/
def Matches (checked : Checked σ ε α) (action : Action σ ε α) (state : σ) : Prop :=
  checked.outcome? state = some (action.outcome state)

namespace Matches

variable {checked : Checked σ ε α} {action : Action σ ε α} {state : σ}

theorem lift (action : Action σ ε α) (state : σ) : (ofAction action).Matches action state := rfl

protected theorem pure (value : α) (state : σ) :
    (pure value : Checked σ ε α).Matches (pure value) state := rfl

protected theorem throw (error : ε) (state : σ) :
    (throw error : Checked σ ε α).Matches (throw error) state := rfl

/-- What comes after a failure does not matter. -/
theorem throw_bind (error : ε) (next : α → Checked σ ε β) (after : α → Action σ ε β) (state : σ) :
    (throw error >>= next).Matches (throw error >>= after) state := rfl

protected theorem ite {condition : Prop} [Decidable condition] {other : Checked σ ε α}
    {otherwise : Action σ ε α} (onHeld : condition → checked.Matches action state)
    (onFailed : ¬condition → other.Matches otherwise state) :
    (if condition then checked else other).Matches (if condition then action else otherwise)
      state := by
  split
  · exact onHeld ‹_›
  · exact onFailed ‹_›

/-- What comes second only has to match where the first action leads. -/
protected theorem bind {next : α → Checked σ ε β} {after : α → Action σ ε β}
    (first : checked.Matches action state)
    (second : ∀ value last, action.outcome state = (.ok value, last) →
      (next value).Matches (after value) last) :
    (checked >>= next).Matches (action >>= after) state := by
  unfold Matches at first ⊢
  rw [outcome?_bind, first, Action.outcome_bind]
  rcases ran : action.outcome state with ⟨result, last⟩
  cases result with
  | ok value => exact second value last ran
  | error error => rfl

/-- An action in which nothing needs to be checked may come first. -/
theorem lift_bind {next : α → Checked σ ε β} {after : α → Action σ ε β}
    (second : ∀ value last, action.outcome state = (.ok value, last) →
      (next value).Matches (after value) last) :
    (ofAction action >>= next).Matches (action >>= after) state :=
  (lift action state).bind second

protected theorem map (change : α → β) (first : checked.Matches action state) :
    (change <$> checked).Matches (change <$> action) state := by
  rw [map_eq_pure_bind, map_eq_pure_bind]
  exact first.bind fun _ _ _ ↦ .pure _ _

section Checks

variable {next : α → Checked σ ε β} {after : Action σ ε β}

/-- A value that is there does not stop the checked action. -/
theorem found {value? : Option α} {value : α} (there : value? = some value)
    (second : (next value).Matches after state) : (found value? >>= next).Matches after state :=
  (outcome?_found_bind there next state).trans second

theorem demand {condition : Prop} [Decidable condition] {next : PLift condition → Checked σ ε β}
    (held : condition) (second : (next ⟨held⟩).Matches after state) :
    (demand condition >>= next).Matches after state :=
  found (dif_pos held) second

theorem item {items : List α} {position : Nat} {value : α} (there : items[position]? = some value)
    (second : (next value).Matches after state) :
    (item items position >>= next).Matches after state :=
  found there second

theorem part {items : List α} {start stop : Nat} {next : List α → Checked σ ε β}
    (inside : start ≤ stop ∧ stop ≤ items.length)
    (second : (next ((items.drop start).take (stop - start))).Matches after state) :
    (part items start stop >>= next).Matches after state :=
  found (if_pos inside) second

theorem minus {number less : Nat} {next : Nat → Checked σ ε β} (enough : less ≤ number)
    (second : (next (number - less)).Matches after state) :
    (minus number less >>= next).Matches after state :=
  found (if_pos enough) second

end Checks

/-- The state may be looked at. -/
theorem get_bind {next : σ → Checked σ ε β} {after : σ → Action σ ε β}
    (second : (next state).Matches (after state) state) :
    (get >>= next).Matches (get >>= after) state := by
  have looked : (get : Checked σ ε σ).Matches get state := rfl
  refine looked.bind fun value last same ↦ ?_
  cases same
  exact second

protected theorem mapError (rename : ε → ε') (first : checked.Matches action state) :
    (checked.mapError rename).Matches (action.mapError rename) state := by
  unfold Matches at first ⊢
  show (checked.outcome? state).map _ = _
  rw [first]
  rcases ran : action.outcome state with ⟨result, last⟩
  cases result <;> simp [Action.mapError, ran]

protected theorem attempt (first : checked.Matches action state) :
    (checked.attempt : Checked σ ε' _).Matches action.attempt state := by
  unfold Matches at first ⊢
  show (checked.outcome? state).map _ = _
  rw [first]
  rfl

protected theorem onError (recover : ε → σ → σ) (first : checked.Matches action state) :
    (checked.onError recover).Matches (action.onError recover) state := by
  unfold Matches at first ⊢
  show (checked.outcome? state).map _ = _
  rw [first]
  rcases ran : action.outcome state with ⟨result, last⟩
  cases result <;> simp [Action.onError, ran]

protected theorem within {part : τ → σ} {replace : σ → τ → τ} {state : τ}
    (first : checked.Matches action (part state)) :
    (checked.within part replace).Matches (action.within part replace) state := by
  unfold Matches at first ⊢
  show (checked.outcome? (part state)).map _ = _
  rw [first]
  rfl

end Matches

end Checked

end DebugProbe
