import DebugProbe.Proofs.Link.Sparing

/-!
# Accesses that are refused

A sticky error and a batch that waits stand in the way of accesses. Each of them is refused for
that reason before anything is exchanged, and the link stays as it is.
-/

namespace DebugProbe

variable {σ : Type}

namespace Link

/-- A reason to refuse accesses: accesses of a batch go first, sticky errors have to be cleared. -/
inductive Blocked (link : Link σ) : AccessError → Prop
  | sticky (active : link.state.isActive = true) (sticky : link.state.stickyError = true)
      (none : link.batch = {}) : Blocked link .stickyErrorPending
  | batch (active : link.state.isActive = true) (clear : link.state.stickyError = false)
      (some : link.batch.isEmpty = false) : Blocked link .batchPending

/-- The action fails for the reason, and that is all that it does. -/
def Refuses {ε α : Type} (link : Link σ) (cause : ε) (action : Action (Link σ) ε α) : Prop :=
  action.Yields link (fun _ _ ↦ False) (fun error next ↦ error = cause ∧ next = link)

variable {ε α β : Type} {link : Link σ} {cause : AccessError}

/-- Nothing follows what is refused. -/
theorem Refuses.bind {cause : ε} {action : Action (Link σ) ε α}
    (refuses : link.Refuses cause action) (next : α → Action (Link σ) ε β) :
    link.Refuses cause (action >>= next) :=
  Action.Yields.stops refuses

/-- Queueing is refused while sticky errors have to be cleared. -/
theorem queue_refuses (active : link.state.isActive = true)
    (sticky : link.state.stickyError = true) (packetSize : Nat) (access : RegisterAccess) :
    link.Refuses .stickyErrorPending (queue packetSize access) := by
  unfold Refuses
  rw [yields_queue, yields_checkReady]
  simp [active, sticky]

variable [Transport σ]

theorem run_refuses (blocked : link.Blocked cause) (config : TransferConfig)
    (access : RegisterAccess) : link.Refuses cause (run config access) := by
  cases blocked with
  | sticky active sticky none =>
    unfold Refuses run
    rw [Action.yields_bind, yields_checkNoneQueued_of none, Action.yields_bind, yields_onProbe]
    exact (queue_refuses active sticky _ access).bind _
  | batch active clear some =>
    refine Refuses.bind ?_ _
    exact yields_checkNoneQueued.mpr ⟨fun _ ↦ ⟨rfl, rfl⟩, fun empty ↦ by simp [some] at empty⟩

/-- An access that does not fit into a packet is refused where nothing else is in its way. -/
theorem run_refuses_full (quiet : link.Quiet) (active : link.state.isActive = true)
    {access : RegisterAccess}
    (large : Batch.fits (Batch.entriesFor link.state.selectCache access 0)
      (Transport.packetSize link.transport) = false) (config : TransferConfig) :
    link.Refuses .batchFull (run config access) := by
  have full : link.batch.push? link.state.selectCache (Transport.packetSize link.transport)
      access = none := by
    rw [quiet.batch]
    unfold Batch.push?
    exact if_neg (Bool.eq_false_iff.mp large)
  unfold Refuses run
  rw [Action.yields_bind, yields_checkNoneQueued_of quiet.batch, Action.yields_bind, yields_onProbe]
  refine Refuses.bind ?_ _
  unfold Refuses
  rw [yields_queue, yields_checkReady_of active quiet.sticky]
  split
  · next batch pushed => exact Option.some_ne_none batch (pushed.symm.trans full)
  · exact ⟨rfl, rfl⟩

end Link

namespace Session

open Link (Refuses)

variable [Transport σ] {link : Link σ} {cause : AccessError}

theorem readRegister_refuses (blocked : link.Blocked cause) (config : TransferConfig)
    (register : RegisterAddress) : link.Refuses cause (readRegister config register) :=
  (Link.run_refuses blocked config _).bind _

theorem writeRegister_refuses (blocked : link.Blocked cause) (config : TransferConfig)
    (register : RegisterAddress) (value : UInt32) :
    link.Refuses cause (writeRegister config register value) :=
  (Link.run_refuses blocked config _).bind _

/-- Of several accesses the first one is refused. -/
theorem runAll_refuses (blocked : link.Blocked cause) (config : TransferConfig)
    (access : RegisterAccess) (rest : List RegisterAccess) :
    link.Refuses cause (runAll config (access :: rest)) := by
  cases blocked with
  | sticky active sticky none =>
    have same : link.discard = link := by
      show ({ link with batch := {} } : Link σ) = link
      rw [← none]
    unfold Refuses runAll
    rw [Action.yields_bind, Link.yields_checkNoneQueued_of none, Action.yields_bind,
      Link.yields_onProbe]
    refine Refuses.bind ?_ _
    unfold queueAll
    refine Refuses.bind ?_ _
    unfold Refuses
    rw [Action.yields_onError]
    refine (Link.queue_refuses active sticky _ access).imp (fun _ _ never ↦ never) ?_
    rintro error next ⟨isSticky, rfl⟩
    exact ⟨isSticky, same⟩
  | batch active clear some =>
    refine Refuses.bind ?_ _
    exact Link.yields_checkNoneQueued.mpr
      ⟨fun _ ↦ ⟨rfl, rfl⟩, fun empty ↦ by simp [some] at empty⟩

theorem readSpans_refuses (blocked : link.Blocked cause) (config : TransferConfig)
    (port : MemoryPort) {spans : List MemorySpan} (some : spans ≠ []) :
    link.Refuses cause (readSpans config port spans) := by
  cases spans with
  | nil => exact absurd rfl some
  | cons span rest =>
    refine Refuses.bind ?_ _
    cases span with
    | byte address => exact (runAll_refuses blocked config _ _).bind _
    | words address count => exact (runAll_refuses blocked config _ _).bind _

theorem writeSpans_refuses (blocked : link.Blocked cause) (config : TransferConfig)
    (port : MemoryPort) {spans : List MemorySpan} (some : spans ≠ []) (data : Bytes) :
    link.Refuses cause (writeSpans config port spans data) := by
  cases spans with
  | nil => exact absurd rfl some
  | cons span rest =>
    refine Refuses.bind ?_ _
    cases span with
    | byte address => exact (runAll_refuses blocked config _ _).bind _
    | words address count => exact (runAll_refuses blocked config _ _).bind _

end Session

end DebugProbe
