import DebugProbe.Link.Transfer
import DebugProbe.Proofs.Action

/-!
# What the small steps on a link yield

Rules for the steps that register accesses are made of, and the cases of `Link.classify`.
-/

namespace DebugProbe

/-- The target asks to try again, and nothing went wrong on the line. -/
def TransferStatus.IsWait (status : TransferStatus) : Prop :=
  status.acknowledge = .wait ∧ status.protocolError = false

namespace Link

variable {σ ε α : Type} {link : Link σ}

@[simp] theorem yields_modifyState {change : LinkState → LinkState} {done : Unit → Link σ → Prop}
    {failed : ε → Link σ → Prop} :
    (modifyState change).Yields link done failed ↔
      done () { link with state := change link.state } := Iff.rfl

@[simp] theorem yields_onProbe {action : Action σ ε α} {done : α → Link σ → Prop}
    {failed : ε → Link σ → Prop} :
    (onProbe action).Yields link done failed ↔
      action.Yields link.transport (fun value next ↦ done value { link with transport := next })
        (fun error next ↦ failed error { link with transport := next }) := by
  unfold onProbe
  rw [Action.yields_within]

@[simp] theorem yields_command {action : Action σ CommandError α} {done : α → Link σ → Prop}
    {failed : AccessError → Link σ → Prop} :
    (command action).Yields link done failed ↔
      action.Yields link.transport (fun value next ↦ done value { link with transport := next })
        (fun error next ↦ failed (.command error) { link with transport := next }) := by
  unfold command
  rw [Action.yields_mapError, yields_onProbe]

@[simp] theorem yields_noteFailure {status : TransferStatus}
    {done : Option AccessStatus → Link σ → Prop} {failed : ε → Link σ → Prop} :
    (noteFailure status).Yields link done failed ↔
      done (classify status link.state).1
        { link with state := (classify status link.state).2 } := Iff.rfl

/-- Accesses go out exactly over an active link without a sticky error. -/
theorem yields_checkReady {done : Unit → Link σ → Prop} {failed : AccessError → Link σ → Prop} :
    checkReady.Yields link done failed ↔
      (link.state.isActive = false → failed .notConnected link) ∧
        (link.state.isActive = true → link.state.stickyError = true →
          failed .stickyErrorPending link) ∧
        (link.state.isActive = true → link.state.stickyError = false → done () link) := by
  unfold checkReady
  cases active : link.state.isActive <;> cases sticky : link.state.stickyError <;>
    simp [active, sticky]

/-- Accesses go out over an active link without a sticky error. -/
theorem yields_checkReady_of {done : Unit → Link σ → Prop} {failed : AccessError → Link σ → Prop}
    (active : link.state.isActive = true) (clear : link.state.stickyError = false) :
    checkReady.Yields link done failed ↔ done () link := by
  rw [yields_checkReady]
  simp [active, clear]

/-- Accesses other than those of the batch go out only when it is empty. -/
theorem yields_checkNoneQueued {done : Unit → Link σ → Prop}
    {failed : AccessError → Link σ → Prop} :
    checkNoneQueued.Yields link done failed ↔
      (link.batch.isEmpty = false → failed .batchPending link) ∧
        (link.batch.isEmpty = true → done () link) := by
  unfold checkNoneQueued
  cases empty : link.batch.isEmpty <;> simp [empty]

/-- Accesses other than those of the batch go out when it is empty. -/
theorem yields_checkNoneQueued_of {done : Unit → Link σ → Prop}
    {failed : AccessError → Link σ → Prop} (none : link.batch = {}) :
    checkNoneQueued.Yields link done failed ↔ done () link := by
  have empty : link.batch.isEmpty = true := by
    rw [none]
    rfl
  rw [yields_checkNoneQueued]
  simp [empty]

/-- An access is queued exactly over an active link without a sticky error, if it still fits. -/
theorem yields_queue {packetSize : Nat} {access : RegisterAccess} {done : Nat → Link σ → Prop}
    {failed : AccessError → Link σ → Prop} :
    (queue packetSize access).Yields link done failed ↔
      checkReady.Yields link (fun _ after ↦
        match after.batch.push? after.state.selectCache packetSize access with
        | some batch => done after.batch.requests { after with batch }
        | none => failed .batchFull after) failed := by
  unfold queue
  simp only [Action.yields_bind, Action.yields_get]
  rw [yields_checkReady, yields_checkReady]
  cases link.batch.push? link.state.selectCache packetSize access with
  | none => simp only [Action.yields_throw]
  | some batch => simp only [Action.yields_bind, Action.yields_set, Action.yields_pure]

/-- A status either is a WAIT, which changes nothing, or ends the accesses. -/
theorem classify_cases (status : TransferStatus) (state : LinkState) :
    (status.IsWait ∧ classify status state = (none, state)) ∨
      ∃ failure sticky pending, classify status state =
          (some failure, { state with stickyError := sticky, lineResetPending := pending }) ∧
        ¬status.IsWait ∧ (failure = .fault ∨ failure = .noResponse) := by
  unfold classify TransferStatus.IsWait
  cases status.protocolError with
  | true => exact .inr ⟨.fault, true, state.lineResetPending, rfl, nofun, .inl rfl⟩
  | false =>
    cases status.acknowledge with
    | ok => exact .inr ⟨.fault, state.stickyError, state.lineResetPending, rfl, nofun, .inl rfl⟩
    | wait => exact .inl ⟨⟨rfl, rfl⟩, rfl⟩
    | fault => exact .inr ⟨.fault, true, state.lineResetPending, rfl, nofun, .inl rfl⟩
    | noAck => exact .inr ⟨.noResponse, state.stickyError, true, rfl, nofun, .inr rfl⟩

end Link

end DebugProbe
