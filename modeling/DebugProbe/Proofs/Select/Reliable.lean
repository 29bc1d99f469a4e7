import DebugProbe.Proofs.Select.Calls
import DebugProbe.Proofs.Simulator.Traced

/-!
# When the cache of SELECT can be relied on

On the wire four debug port addresses out of sixteen read as that of SELECT, but the library takes
only a write to its own address for one of SELECT. A write at another one changes SELECT behind the
back of the cache, and only such a write does.
-/

namespace DebugProbe

/-- A write at an alias of SELECT goes out like one at any other alias, and is not remembered. -/
private theorem entriesFor_alias {address : UInt8}
    (aliased : address &&& 0x0C = DebugPort.selectAddress)
    (other : address ≠ DebugPort.selectAddress)
    (current : Option Select) (value : UInt32) (index : Nat) :
    Batch.entriesFor current (.write (.debug address) value) index =
      [⟨⟨.debug, DebugPort.selectAddress, some value⟩, none, some index⟩] := by
  have unbanked : ¬(RegisterAddress.debug address).Banked := fun banked ↦
    absurd (aliased.symm.trans banked) (by decide)
  have sent : BatchEntry.ofAccess (.write (.debug address) value) index =
      ⟨⟨.debug, DebugPort.selectAddress, some value⟩, none, some index⟩ := by
    unfold BatchEntry.ofAccess
    dsimp only
    rw [if_neg other]
    exact congrArg (fun wire ↦ BatchEntry.mk ⟨.debug, wire, some value⟩ none (some index)) aliased
  unfold Batch.entriesFor
  dsimp only [RegisterAccess.register]
  rw [RegisterAddress.requiredSelect_of_not_banked unbanked, sent]
  rfl

variable {σ : Type} [Transport σ]

/-- Two writes at aliases of SELECT are queued alike. -/
private theorem queue_alias {address twin : UInt8}
    (same : address &&& 0x0C = DebugPort.selectAddress)
    (sameTwin : twin &&& 0x0C = DebugPort.selectAddress)
    (other : address ≠ DebugPort.selectAddress) (otherTwin : twin ≠ DebugPort.selectAddress)
    (value : UInt32) (session : Session σ) :
    (Call.queue (.write (.debug address) value)).next session =
      (Call.queue (.write (.debug twin) value)).next session := by
  have queued (packetSize : Nat) :
      (Link.queue packetSize (.write (.debug address) value) : Action (Link σ) AccessError Nat) =
        Link.queue packetSize (.write (.debug twin) value) := by
    unfold Link.queue Batch.push?
    simp only [entriesFor_alias same other, entriesFor_alias sameTwin otherTwin]
  have operated (first second : Operation) (action : Action (Session σ) AccessError Nat) :
      ((Session.operate first action).outcome session).2 =
        ((Session.operate second action).outcome session).2 := by
    unfold Session.operate Action.mapError
    rw [Action.outcome_ofFun, Action.outcome_ofFun]
    split
    · rfl
    · rfl
  show ((Session.queue _).outcome session).2 = ((Session.queue _).outcome session).2
  unfold Session.queue
  simp only [queued]
  exact operated _ _ _

/-- After a flush that selects the second bank of the debug port, a write at an alias of SELECT is
not noticed. -/
private def staleCalls (address : UInt8) : List Call :=
  [.connect none, .queue (.read (.debug 0x14)), .flush, .queue (.write (.debug address) 0), .flush]

/-- A session with the simulated probe before its first call. -/
private def simulated : SessionRun Traced := ⟨.new { simulator := {} } {}, []⟩

private theorem stale :
    (simulated.steps (staleCalls 0x18)).session.link.state.selectCache = some ⟨1⟩ ∧
      (Traced.trace (simulated.steps (staleCalls 0x18)).session.link.transport).select = 0 := by
  decide +kernel

/-- Whichever alias is written, the session ends up the same. -/
private theorem stale_session {address : UInt8}
    (aliased : address &&& 0x0C = DebugPort.selectAddress)
    (other : address ≠ DebugPort.selectAddress) :
    (simulated.steps (staleCalls address)).session =
      (simulated.steps (staleCalls 0x18)).session := by
  have known : (0x18 : UInt8) &&& 0x0C = DebugPort.selectAddress := by decide
  exact congrArg Call.flush.next (queue_alias aliased known other (by decide) 0 _)

/-- A cache that can be relied on needs every alias of SELECT to be out of reach. -/
private theorem distinguishes_of_reliable {writable : UInt8 → Prop}
    (reliable : SelectCacheReliable writable) : DistinguishesSelect writable := by
  intro address isWritable aliased
  refine Decidable.byContradiction fun other ↦ ?_
  have writes : ∀ call ∈ staleCalls address, call.Writes writable := by
    simp [staleCalls, Call.Writes, isWritable]
  have idle : Traced.Idle { simulator := {} } := ⟨rfl, rfl, rfl⟩
  obtain ⟨truthful, -⟩ := reliable Traced.steady {} idle (staleCalls address) writes
  obtain ⟨believed, held⟩ := stale
  unfold SessionRun.Truthful at truthful
  change Select.Agrees (simulated.steps (staleCalls address)).session.link.state.selectCache
    (Traced.trace (simulated.steps (staleCalls address)).session.link.transport).select at truthful
  rw [stale_session aliased other] at truthful
  have same := truthful _ believed
  rw [held] at same
  exact absurd same (by decide)

/-- The cache of SELECT can be relied on exactly if every write that reads as one of SELECT on the
wire is made at the address of SELECT. -/
theorem selectCacheReliable_iff (writable : UInt8 → Prop) :
    SelectCacheReliable writable ↔ DistinguishesSelect writable :=
  ⟨distinguishes_of_reliable, selectCacheReliable_of_distinguishes⟩

/-- With all register addresses of the debug port the cache cannot be relied on: a write at `0x18`
reaches SELECT unnoticed. -/
theorem not_selectCacheReliable_aligned :
    ¬SelectCacheReliable fun address ↦ address &&& 0x3 = 0 := by
  intro reliable
  have distinguishes := distinguishes_of_reliable reliable
  exact absurd (distinguishes 0x18 (by decide) (by decide)) (by decide)

end DebugProbe
