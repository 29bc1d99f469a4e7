import DebugProbe.Proofs.Link.Performed
import DebugProbe.Proofs.Simulator.Truthful

/-!
# SELECT of the simulated target

The simulated target changes SELECT by a write at its address, and by nothing else.
-/

namespace DebugProbe

namespace Target

@[simp] theorem select_takeAnswer (target : Target) :
    target.takeAnswer.2.select = target.select := by
  unfold takeAnswer
  split <;> rfl

@[simp] theorem select_advance (target : Target) : target.advance.select = target.select := by
  unfold advance
  split <;> rfl

@[simp] theorem select_store (target : Target) (value : UInt32) :
    (target.store value).select = target.select := by
  unfold store
  split <;> rfl

/-- A write at the address of SELECT changes it. -/
theorem select_writeDebug (target : Target) (address : UInt8) (value : UInt32) :
    (target.writeDebug address value).select =
      if address = 0x8 then value else target.select := by
  unfold writeDebug
  by_cases abort : address = 0x0
  · rw [if_pos abort, abort]
    rfl
  · rw [if_neg abort]
    by_cases control : address = 0x4
    · rw [if_pos control, control]
      rfl
    · rw [if_neg control]
      split <;> rfl

@[simp] theorem select_readAccess (target : Target) (address : UInt8) :
    (target.readAccess address).2.select = target.select := by
  unfold readAccess
  dsimp only
  split
  · rfl
  · split
    · rfl
    · split
      · exact select_advance target
      · split <;> rfl

@[simp] theorem select_writeAccess (target : Target) (address : UInt8) (value : UInt32) :
    (target.writeAccess address value).select = target.select := by
  unfold writeAccess
  dsimp only
  split
  · rfl
  · split
    · rfl
    · split
      · exact (select_advance _).trans (select_store target value)
      · rfl

/-- Performing an access changes SELECT as every access does. -/
theorem select_perform (transfer : Transfer) (target : Target) :
    (perform transfer target).2.select = transfer.selectAfter target.select := by
  rcases transfer with ⟨_ | _, address, _ | value⟩
  · exact (ite_self _).symm
  · apply (select_writeDebug target _ value).trans
    by_cases selects : address &&& 0x0C = DebugPort.selectAddress
    · exact (if_pos selects).trans (if_pos ⟨rfl, selects⟩).symm
    · exact (if_neg selects).trans (if_neg fun both ↦ selects both.2).symm
  · rw [Transfer.selectAfter_of_access rfl]
    exact select_readAccess target _
  · rw [Transfer.selectAfter_of_access rfl]
    exact select_writeAccess target _ value

/-- SELECT follows the accesses that a simulated target carries out. -/
theorem tracks : model.TracksSelect select where
  completes := by
    intro transfer word target next step
    have same := congrArg (fun result ↦ result.2.select) (perform_of_access step)
    rw [← select_takeAnswer target]
    exact same.symm.trans (select_perform transfer _)
  refuses := by
    intro transfer code target next step
    rw [(refused_of_access step).2]
    exact select_takeAnswer target

end Target

end DebugProbe
