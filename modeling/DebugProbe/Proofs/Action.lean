import DebugProbe.Action

/-!
# What actions yield

Statements about an action say what holds of its answer and of the state it leaves, in one
postcondition for success and one for failure. There is one rule for each way of building an
action, so that a statement about a composed action comes apart into statements about its steps.
An invariant that every step keeps is kept by the whole.
-/

namespace DebugProbe

namespace Action

variable {σ τ ε ε' α β : Type}

/-- From a state the action answers and leaves a state that `done` accepts, or fails and leaves a
state that `failed` accepts. -/
def Yields (action : Action σ ε α) (state : σ) (done : α → σ → Prop) (failed : ε → σ → Prop) :
    Prop :=
  match action.outcome state with
  | (.ok value, next) => done value next
  | (.error error, next) => failed error next

/-- What an action yields, read off its outcome. -/
theorem yields_iff {action : Action σ ε α} {state : σ} {done : α → σ → Prop}
    {failed : ε → σ → Prop} :
    action.Yields state done failed ↔
      (∀ value next, action.outcome state = (.ok value, next) → done value next) ∧
        ∀ error next, action.outcome state = (.error error, next) → failed error next := by
  unfold Yields
  constructor
  · intro h
    constructor
    · intro value next outcome
      rw [outcome] at h
      exact h
    · intro error next outcome
      rw [outcome] at h
      exact h
  · rintro ⟨onDone, onFailed⟩
    split
    · next value next outcome => exact onDone value next outcome
    · next error next outcome => exact onFailed error next outcome

/-- An action that answers has met its first postcondition. -/
theorem Yields.of_ok {action : Action σ ε α} {state next : σ} {value : α} {done : α → σ → Prop}
    {failed : ε → σ → Prop} (h : action.Yields state done failed)
    (outcome : action.outcome state = (.ok value, next)) : done value next :=
  (yields_iff.mp h).1 value next outcome

/-- What is known of an action may be known together with its outcome. -/
theorem Yields.with_outcome {action : Action σ ε α} {state : σ} {done : α → σ → Prop}
    {failed : ε → σ → Prop} (h : action.Yields state done failed) :
    action.Yields state
      (fun value next ↦ done value next ∧ action.outcome state = (.ok value, next))
      (fun error next ↦ failed error next ∧ action.outcome state = (.error error, next)) := by
  obtain ⟨succeeds, fails⟩ := yields_iff.mp h
  exact yields_iff.mpr ⟨fun value next outcome ↦ ⟨succeeds value next outcome, outcome⟩,
    fun error next outcome ↦ ⟨fails error next outcome, outcome⟩⟩

/-- What holds after success and failure alike holds of the state that is left. -/
theorem Yields.left {action : Action σ ε α} {state : σ} {after : σ → Prop}
    (h : action.Yields state (fun _ ↦ after) fun _ ↦ after) :
    after (action.outcome state).2 := by
  unfold Yields at h
  split at h
  · next value next outcome =>
    rw [outcome]
    exact h
  · next error next outcome =>
    rw [outcome]
    exact h

/-- What holds of the state that is left holds after success and failure alike. -/
theorem Yields.of_left {action : Action σ ε α} {state : σ} {after : σ → Prop}
    (h : after (action.outcome state).2) :
    action.Yields state (fun _ ↦ after) fun _ ↦ after := by
  unfold Yields
  split
  · next value next outcome =>
    rw [outcome] at h
    exact h
  · next error next outcome =>
    rw [outcome] at h
    exact h

/-- Postconditions can be weakened. -/
theorem Yields.imp {action : Action σ ε α} {state : σ} {done done' : α → σ → Prop}
    {failed failed' : ε → σ → Prop} (h : action.Yields state done failed)
    (onDone : ∀ value next, done value next → done' value next)
    (onFailed : ∀ error next, failed error next → failed' error next) :
    action.Yields state done' failed' := by
  unfold Yields at h ⊢
  split at h
  · next value next outcome => exact onDone value next h
  · next error next outcome => exact onFailed error next h

/-- Postconditions hold together. -/
theorem Yields.and {action : Action σ ε α} {state : σ} {done done' : α → σ → Prop}
    {failed failed' : ε → σ → Prop} (h : action.Yields state done failed)
    (h' : action.Yields state done' failed') :
    action.Yields state (fun value next ↦ done value next ∧ done' value next)
      (fun error next ↦ failed error next ∧ failed' error next) := by
  unfold Yields at h h' ⊢
  split at h
  · next value next outcome =>
    rw [outcome] at h'
    exact ⟨h, h'⟩
  · next error next outcome =>
    rw [outcome] at h'
    exact ⟨h, h'⟩

/-- An action whose failures are impossible answers. -/
theorem Yields.exists_ok {action : Action σ ε α} {state : σ} {done : α → σ → Prop}
    (h : action.Yields state done fun _ _ ↦ False) :
    ∃ value next, action.outcome state = (.ok value, next) ∧ done value next := by
  unfold Yields at h
  split at h
  · next value next outcome => exact ⟨value, next, outcome, h⟩
  · exact h.elim

section Rules

variable {state : σ} {failed : ε → σ → Prop}

@[simp] theorem yields_pure {value : α} {done : α → σ → Prop} :
    (pure value : Action σ ε α).Yields state done failed ↔ done value state := Iff.rfl

@[simp] theorem yields_throw {error : ε} {done : α → σ → Prop} :
    (throw error : Action σ ε α).Yields state done failed ↔ failed error state := Iff.rfl

@[simp] theorem yields_get {done : σ → σ → Prop} :
    (get : Action σ ε σ).Yields state done failed ↔ done state state := Iff.rfl

@[simp] theorem yields_set {next : σ} {done : PUnit → σ → Prop} :
    (set next : Action σ ε PUnit).Yields state done failed ↔ done ⟨⟩ next := Iff.rfl

@[simp] theorem yields_modify {change : σ → σ} {done : PUnit → σ → Prop} :
    (modify change : Action σ ε PUnit).Yields state done failed ↔ done ⟨⟩ (change state) := Iff.rfl

@[simp] theorem yields_update {change : σ → σ} {done : Unit → σ → Prop} :
    (update change : Action σ ε Unit).Yields state done failed ↔ done () (change state) := Iff.rfl

@[simp] theorem yields_ofExcept {result : Except ε α} {done : α → σ → Prop} :
    (ofExcept result).Yields state done failed ↔
      match result with
      | .ok value => done value state
      | .error error => failed error state := by
  cases result <;> rfl

/-- The second action starts where the first one ended. -/
@[simp] theorem yields_bind {action : Action σ ε α} {next : α → Action σ ε β}
    {done : β → σ → Prop} :
    (action >>= next).Yields state done failed ↔
      action.Yields state (fun value after ↦ (next value).Yields after done failed) failed := by
  unfold Yields
  rw [outcome_bind]
  rcases action.outcome state with ⟨result, after⟩
  cases result <;> rfl

/-- Nothing follows an action that fails. -/
theorem Yields.stops {action : Action σ ε α} {next : α → Action σ ε β} {done : β → σ → Prop}
    (never : action.Yields state (fun _ _ ↦ False) failed) :
    (action >>= next).Yields state done failed := by
  rw [yields_bind]
  exact never.imp (fun _ _ success ↦ success.elim) (fun _ _ failure ↦ failure)

theorem yields_map {action : Action σ ε α} {f : α → β} {done : β → σ → Prop} :
    (f <$> action).Yields state done failed ↔
      action.Yields state (fun value after ↦ done (f value) after) failed := by
  rw [← bind_pure_comp, yields_bind]
  rfl

/-- A choice is judged by the action that is chosen. -/
@[simp] theorem yields_ite {condition : Prop} [Decidable condition] {yes no : Action σ ε α}
    {done : α → σ → Prop} :
    (if condition then yes else no).Yields state done failed ↔
      (condition → yes.Yields state done failed) ∧ (¬condition → no.Yields state done failed) := by
  split
  · next h => simp [h]
  · next h => simp [h]

@[simp] theorem yields_attempt {action : Action σ ε' α} {done : Except ε' α → σ → Prop} :
    (action.attempt : Action σ ε (Except ε' α)).Yields state done failed ↔
      action.Yields state (fun value ↦ done (.ok value)) (fun error ↦ done (.error error)) := by
  unfold Yields attempt
  rw [outcome_ofFun]
  rcases action.outcome state with ⟨result, after⟩
  cases result <;> rfl

@[simp] theorem yields_mapError {action : Action σ ε' α} {rename : ε' → ε}
    {done : α → σ → Prop} :
    (action.mapError rename).Yields state done failed ↔
      action.Yields state done (fun error ↦ failed (rename error)) := by
  unfold Yields mapError
  rw [outcome_ofFun]
  rcases action.outcome state with ⟨result, after⟩
  cases result <;> rfl

@[simp] theorem yields_onError {action : Action σ ε α} {recover : ε → σ → σ}
    {done : α → σ → Prop} :
    (action.onError recover).Yields state done failed ↔
      action.Yields state done (fun error after ↦ failed error (recover error after)) := by
  unfold Yields onError
  rw [outcome_ofFun]
  rcases action.outcome state with ⟨result, after⟩
  cases result <;> rfl

@[simp] theorem yields_within {action : Action τ ε α} {part : σ → τ} {replace : τ → σ → σ}
    {done : α → σ → Prop} :
    (action.within part replace).Yields state done failed ↔
      action.Yields (part state) (fun value after ↦ done value (replace after state))
        (fun error after ↦ failed error (replace after state)) := by
  unfold Yields within
  rw [outcome_ofFun]
  rcases action.outcome (part state) with ⟨result, after⟩
  cases result <;> rfl

end Rules

/-- From every state that `invariant` accepts the action leaves one that it accepts too, or fails
and leaves one that `left` accepts. -/
def Keeps (action : Action σ ε α) (invariant left : σ → Prop) : Prop :=
  ∀ state, invariant state → action.Yields state (fun _ ↦ invariant) (fun _ ↦ left)

section Keeps

variable {invariant left : σ → Prop}

theorem keeps_pure (value : α) : (pure value : Action σ ε α).Keeps invariant left :=
  fun _ holds ↦ holds

theorem keeps_throw (error : ε) (leaves : ∀ state, invariant state → left state) :
    (throw error : Action σ ε α).Keeps invariant left :=
  leaves

theorem keeps_update {change : σ → σ}
    (keeps : ∀ state, invariant state → invariant (change state)) :
    (update change : Action σ ε Unit).Keeps invariant left :=
  keeps

/-- An action may go on with whatever the state is. -/
theorem keeps_get_bind {next : σ → Action σ ε β}
    (keeps : ∀ state, (next state).Keeps invariant left) :
    (get >>= next).Keeps invariant left :=
  fun state holds ↦ yields_bind.mpr (keeps state state holds)

/-- A sequence keeps what both of its actions keep. -/
theorem Keeps.bind {action : Action σ ε α} {next : α → Action σ ε β}
    (keeps : action.Keeps invariant left) (later : ∀ value, (next value).Keeps invariant left) :
    (action >>= next).Keeps invariant left := by
  intro state holds
  rw [yields_bind]
  exact (keeps state holds).imp (fun value after ↦ later value after) (fun _ _ lost ↦ lost)

/-- What follows an action starts from what the action keeps. -/
theorem Keeps.yields_bind {action : Action σ ε α} {next : α → Action σ ε β} {state : σ}
    {done : β → σ → Prop} (keeps : action.Keeps invariant left) (holds : invariant state)
    (later : ∀ value after, invariant after → (next value).Yields after done fun _ ↦ left) :
    (action >>= next).Yields state done fun _ ↦ left :=
  Action.yields_bind.mpr ((keeps state holds).imp later fun _ _ lost ↦ lost)

/-- More may be lost by a failure. -/
theorem Keeps.imp {action : Action σ ε α} {lost : σ → Prop} (keeps : action.Keeps invariant left)
    (leaves : ∀ state, left state → lost state) : action.Keeps invariant lost :=
  fun state holds ↦ (keeps state holds).imp (fun _ _ kept ↦ kept) fun _ next ↦ leaves next

/-- A choice keeps what both of its actions keep. -/
theorem keeps_ite {condition : Prop} [Decidable condition] {yes no : Action σ ε α}
    (onYes : yes.Keeps invariant left) (onNo : no.Keeps invariant left) :
    (if condition then yes else no).Keeps invariant left := by
  split
  · exact onYes
  · exact onNo

theorem Keeps.map {action : Action σ ε α} {f : α → β} (keeps : action.Keeps invariant left) :
    (f <$> action).Keeps invariant left :=
  fun state holds ↦ yields_map.mpr (keeps state holds)

theorem Keeps.mapError {action : Action σ ε' α} {rename : ε' → ε}
    (keeps : action.Keeps invariant left) : (action.mapError rename).Keeps invariant left :=
  fun state holds ↦ yields_mapError.mpr (keeps state holds)

/-- An attempt does not fail. -/
theorem Keeps.attempt {action : Action σ ε' α} (keeps : action.Keeps invariant invariant) :
    (action.attempt : Action σ ε (Except ε' α)).Keeps invariant left :=
  fun state holds ↦ yields_attempt.mpr (keeps state holds)

end Keeps

/-- From every state that `invariant` accepts the action leaves one that it accepts too, whatever
becomes of it, and its failures are among the `expected` ones. -/
def Guards (action : Action σ ε α) (invariant : σ → Prop) (expected : ε → Prop) : Prop :=
  ∀ state, invariant state →
    action.Yields state (fun _ ↦ invariant) (fun error next ↦ expected error ∧ invariant next)

section Guards

variable {invariant : σ → Prop} {expected : ε → Prop}

/-- The invariant holds of the state that is left. -/
theorem Guards.left {action : Action σ ε α} {state : σ}
    (guards : action.Guards invariant expected) (holds : invariant state) :
    invariant (action.outcome state).2 :=
  ((guards state holds).imp (fun _ _ kept ↦ kept) fun _ _ failed ↦ failed.2).left

theorem guards_pure (value : α) : (pure value : Action σ ε α).Guards invariant expected :=
  fun _ holds ↦ holds

theorem guards_throw {error : ε} (isExpected : expected error) :
    (throw error : Action σ ε α).Guards invariant expected :=
  fun _ holds ↦ ⟨isExpected, holds⟩

theorem guards_ofExcept {result : Except ε α}
    (isExpected : ∀ error, result = .error error → expected error) :
    (ofExcept result).Guards invariant expected := by
  cases result with
  | ok value => exact guards_pure value
  | error error => exact guards_throw (isExpected error rfl)

theorem guards_update {change : σ → σ}
    (keeps : ∀ state, invariant state → invariant (change state)) :
    (update change : Action σ ε Unit).Guards invariant expected :=
  keeps

/-- An action may go on with whatever the state is. -/
theorem guards_get_bind {next : σ → Action σ ε β}
    (guards : ∀ state, invariant state → (next state).Guards invariant expected) :
    (get >>= next).Guards invariant expected :=
  fun state holds ↦ yields_bind.mpr (guards state holds state holds)

/-- A sequence guards what both of its actions guard. -/
theorem Guards.bind {action : Action σ ε α} {next : α → Action σ ε β}
    (guards : action.Guards invariant expected)
    (later : ∀ value, (next value).Guards invariant expected) :
    (action >>= next).Guards invariant expected := by
  intro state holds
  rw [Action.yields_bind]
  exact (guards state holds).imp (fun value after ↦ later value after) fun _ _ failed ↦ failed

/-- A choice guards what the action that is chosen guards. -/
theorem guards_ite {condition : Prop} [Decidable condition] {yes no : Action σ ε α}
    (onYes : condition → yes.Guards invariant expected)
    (onNo : ¬condition → no.Guards invariant expected) :
    (if condition then yes else no).Guards invariant expected := by
  split
  · next chosen => exact onYes chosen
  · next chosen => exact onNo chosen

theorem Guards.map {action : Action σ ε α} {f : α → β}
    (guards : action.Guards invariant expected) : (f <$> action).Guards invariant expected :=
  fun state holds ↦ yields_map.mpr (guards state holds)

/-- A failure is expected if it was before it was renamed. -/
theorem Guards.mapError {rename : ε' → ε} {action : Action σ ε' α}
    (guards : action.Guards invariant fun error ↦ expected (rename error)) :
    (action.mapError rename).Guards invariant expected :=
  fun state holds ↦ yields_mapError.mpr (guards state holds)

/-- What is changed after a failure has to keep the invariant too. -/
theorem Guards.onError {recover : ε → σ → σ} {action : Action σ ε α}
    (guards : action.Guards invariant expected)
    (keeps : ∀ error state, invariant state → invariant (recover error state)) :
    (action.onError recover).Guards invariant expected :=
  fun state holds ↦ yields_onError.mpr ((guards state holds).imp (fun _ _ kept ↦ kept)
    fun error next ⟨isExpected, kept⟩ ↦ ⟨isExpected, keeps error next kept⟩)

/-- A failure that is held back is known to be an expected one when it is dealt with. -/
theorem Guards.attempt_bind {early : ε' → Prop} {action : Action σ ε' α}
    {next : Except ε' α → Action σ ε β} (guards : action.Guards invariant early)
    (later : ∀ result, (∀ error, result = .error error → early error) →
      (next result).Guards invariant expected) :
    (action.attempt >>= next).Guards invariant expected := by
  intro state holds
  rw [Action.yields_bind, yields_attempt]
  refine (guards state holds).imp ?_ ?_
  · intro value after kept
    exact later (.ok value) nofun after kept
  · rintro error after ⟨isEarly, kept⟩
    exact later (.error error) (fun _ same ↦ Except.error.inj same ▸ isEarly) after kept

end Guards

end Action

end DebugProbe
