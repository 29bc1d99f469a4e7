import DebugProbe.Proofs.Register.Reach

/-!
# The least change of SELECT

Of all values of SELECT under which a register is reached, the one that is asked for changes the
fewest bits of what is held: those of the fields that the register depends on, and of these only the
ones that differ. A register of an access port and a banked register of the debug port depend on
different fields. So making one of them reachable leaves the other one's fields alone, and both are
reached in the end, in whichever order that is done.
-/

namespace DebugProbe

namespace RegisterAddress

/-- One value changes no bit of a word that the other one leaves alone. -/
def Nearer (word near far : UInt32) : Prop :=
  ∀ position, near.toNat.testBit position ≠ word.toNat.testBit position →
    far.toNat.testBit position ≠ word.toNat.testBit position

/-- A value of SELECT is the least change of what is held under which a register is reached. -/
structure LeastChange (register : RegisterAddress) (held needed : UInt32) : Prop where
  reached : register.ReachedUnder needed
  /-- Bits that the register does not depend on are as before. -/
  kept : needed &&& ~~~register.selectMask = held &&& ~~~register.selectMask
  nearest : ∀ other, register.ReachedUnder other → Nearer held needed other

private theorem lt_of_testBit_ne {first second : UInt32} {position : Nat}
    (differ : first.toNat.testBit position ≠ second.toNat.testBit position) : position < 32 := by
  refine Nat.lt_of_not_le fun large ↦ differ ?_
  rw [BitField.testBit_eq_false first large, BitField.testBit_eq_false second large]

/-- A value under which a register is reached and that keeps all other bits is the least change:
the fields are the same in all values under which the register is reached. -/
theorem LeastChange.of_kept {register : RegisterAddress} (banked : register.Banked)
    {held needed : UInt32} (reached : register.ReachedUnder needed)
    (kept : needed &&& ~~~register.selectMask = held &&& ~~~register.selectMask) :
    register.LeastChange held needed := by
  refine ⟨reached, kept, fun other reaches position changed ↦ ?_⟩
  have small := lt_of_testBit_ne changed
  cases inside : register.selectMask.toNat.testBit position with
  | true =>
    have fields := (reachedUnder_iff banked reached).mp reaches
    rwa [BitField.and_eq_and_iff.mp fields position small inside]
  | false =>
    have outside : (~~~register.selectMask).toNat.testBit position = true := by
      rw [BitField.testBit_not _ small, inside]
      rfl
    exact absurd (BitField.and_eq_and_iff.mp kept position small outside) changed

/-- What is known of SELECT once a register was made reachable. -/
def selected (register : RegisterAddress) (current : Option Select) : Option Select :=
  (register.requiredSelect current).or current

theorem exists_selected {register : RegisterAddress} (banked : register.Banked)
    (current : Option Select) :
    ∃ select, register.selected current = some select ∧
      register.LeastChange (current.getD ⟨0⟩).word select.word := by
  unfold selected
  cases needs : register.requiredSelect current with
  | none =>
    obtain ⟨held, rfl, reached⟩ := exists_reachedUnder_of_none banked needs
    exact ⟨held, rfl, .of_kept banked reached rfl⟩
  | some needed =>
    exact ⟨needed, rfl, .of_kept banked (reachedUnder_of_some needs)
      (and_not_selectMask_of_some needs)⟩

/-- Registers on different sides depend on different bits of SELECT. -/
theorem selectMask_and_selectMask {first second : RegisterAddress}
    (sides : second.port ≠ first.port) : first.selectMask &&& second.selectMask = 0 := by
  cases first with
  | debug address =>
    cases second with
    | debug other => exact absurd rfl sides
    | access accessPort other => exact (by decide : Select.debugPortBank.mask &&&
        (Select.accessPort.mask ||| Select.accessPortBank.mask) = 0)
  | access accessPort address =>
    cases second with
    | debug other => exact (by decide : (Select.accessPort.mask ||| Select.accessPortBank.mask) &&&
        Select.debugPortBank.mask = 0)
    | access otherPort other => exact absurd rfl sides

section Sides

variable {first second : RegisterAddress}

/-- A change for a register leaves the bits alone that a register on the other side depends on. -/
theorem LeastChange.and_selectMask {before after : UInt32}
    (change : second.LeastChange before after) (sides : second.port ≠ first.port) :
    after &&& first.selectMask = before &&& first.selectMask := by
  refine BitField.and_eq_and_iff.mpr fun position small inside ↦
    BitField.and_eq_and_iff.mp change.kept position small ?_
  have outside := congrArg (fun word : UInt32 ↦ word.toNat.testBit position)
    (selectMask_and_selectMask sides)
  rw [BitField.testBit_not _ small]
  simpa [inside] using outside

variable (banked : first.Banked) (banked' : second.Banked)
include banked banked'

/-- Registers on different sides can be made reachable one after the other: both are reached then,
and all bits that neither depends on are as before. -/
private theorem exists_selected_selected (sides : second.port ≠ first.port)
    (current : Option Select) :
    ∃ select, second.selected (first.selected current) = some select ∧
      first.ReachedUnder select.word ∧ second.ReachedUnder select.word ∧
      select.word &&& ~~~(first.selectMask ||| second.selectMask) =
        (current.getD ⟨0⟩).word &&& ~~~(first.selectMask ||| second.selectMask) := by
  obtain ⟨between, was, change⟩ := exists_selected banked current
  obtain ⟨select, is, change'⟩ := exists_selected banked' (some between)
  have reached : first.ReachedUnder select.word :=
    (reachedUnder_iff banked change.reached).mpr (change'.and_selectMask sides)
  refine ⟨select, was ▸ is, reached, change'.reached, ?_⟩
  refine BitField.and_eq_and_iff.mpr fun position small outside ↦ ?_
  rw [BitField.testBit_not _ small, UInt32.toNat_or, Nat.testBit_or, Bool.not_or,
    Bool.and_eq_true] at outside
  have later := BitField.and_eq_and_iff.mp change'.kept position small
    (by rw [BitField.testBit_not _ small, outside.2])
  have earlier := BitField.and_eq_and_iff.mp change.kept position small
    (by rw [BitField.testBit_not _ small, outside.1])
  exact later.trans earlier

/-- Values under which two registers are reached differ only in bits on which neither depends. -/
private theorem eq_of_reachedUnder {select other : UInt32}
    (reached : first.ReachedUnder select ∧ second.ReachedUnder select)
    (reached' : first.ReachedUnder other ∧ second.ReachedUnder other)
    (kept : select &&& ~~~(first.selectMask ||| second.selectMask) =
      other &&& ~~~(first.selectMask ||| second.selectMask)) : select = other := by
  have fields := BitField.and_or_eq_iff.mpr ⟨(reachedUnder_iff banked reached'.1).mp reached.1,
    (reachedUnder_iff banked' reached'.2).mp reached.2⟩
  refine BitField.eq_of_testBit fun position small ↦ ?_
  cases inside : (first.selectMask ||| second.selectMask).toNat.testBit position with
  | true => exact BitField.and_eq_and_iff.mp fields position small inside
  | false =>
    refine BitField.and_eq_and_iff.mp kept position small ?_
    rw [BitField.testBit_not _ small, inside]
    rfl

/-- Registers on different sides can be made reachable in either order, and SELECT has the same
value in the end. -/
theorem selected_comm (sides : second.port ≠ first.port) (current : Option Select) :
    ∃ select, second.selected (first.selected current) = some select ∧
      first.selected (second.selected current) = some select ∧
      first.ReachedUnder select.word ∧ second.ReachedUnder select.word := by
  obtain ⟨select, is, reached, reached', kept⟩ :=
    exists_selected_selected banked banked' sides current
  obtain ⟨other, isOther, there', there, kept'⟩ :=
    exists_selected_selected banked' banked sides.symm current
  rw [UInt32.or_comm second.selectMask] at kept'
  have same : select.word = other.word :=
    eq_of_reachedUnder banked banked' ⟨reached, reached'⟩ ⟨there, there'⟩ (kept.trans kept'.symm)
  obtain rfl : select = other := congrArg Select.mk same
  exact ⟨select, is, isOther, reached, reached'⟩

end Sides

/-- Nothing is asked for exactly if the register is reached under a value that is known. Otherwise
the least change of what is held is asked for, zero standing for an unknown value, after which
nothing is asked for any more. It leaves alone what a banked register on the other side depends on,
and both can be made reachable in either order with the same value in the end. A register that is
not banked never needs anything. -/
theorem requiredSelect_least (register : RegisterAddress) (current : Option Select) :
    (register.Banked →
      (register.requiredSelect current = none ↔
        ∃ held, current = some held ∧ register.ReachedUnder held.word) ∧
      (∀ needed, register.requiredSelect current = some needed →
        register.LeastChange (current.getD ⟨0⟩).word needed.word ∧
        register.requiredSelect (some needed) = none) ∧
      ∀ other : RegisterAddress, other.Banked → other.port ≠ register.port →
        (∀ needed, register.requiredSelect current = some needed →
          needed.word &&& other.selectMask = (current.getD ⟨0⟩).word &&& other.selectMask) ∧
        ∃ select, other.selected (register.selected current) = some select ∧
          register.selected (other.selected current) = some select ∧
          register.ReachedUnder select.word ∧ other.ReachedUnder select.word) ∧
    (¬register.Banked → register.requiredSelect current = none) := by
  constructor
  · intro banked
    have least {needed : Select} (needs : register.requiredSelect current = some needed) :
        register.LeastChange (current.getD ⟨0⟩).word needed.word :=
      .of_kept banked (reachedUnder_of_some needs) (and_not_selectMask_of_some needs)
    refine ⟨⟨exists_reachedUnder_of_none banked, ?_⟩, fun needed needs ↦ ?_,
      fun other banked' sides ↦ ⟨fun needed needs ↦ ?_, ?_⟩⟩
    · rintro ⟨held, rfl, reached⟩
      exact requiredSelect_of_reachedUnder reached
    · exact ⟨least needs, requiredSelect_of_reachedUnder (least needs).reached⟩
    · exact (least needs).and_selectMask sides.symm
    · exact selected_comm banked banked' sides current
  · exact fun unbanked ↦ requiredSelect_of_not_banked unbanked current

/-- Reserved bits and the bank of the debug port stay as a caller wrote them. -/
theorem requiredSelect_least_reserved :
    (access 1 0x10).requiredSelect (some ⟨0x00FFFF05⟩) = some ⟨0x01FFFF15⟩ ∧
      (access 1 0x10).LeastChange 0x00FFFF05 0x01FFFF15 ∧
      (0x01FFFF15 : UInt32) &&& (debug 0x54).selectMask =
        0x00FFFF05 &&& (debug 0x54).selectMask := by
  have needs : (access 1 0x10).requiredSelect (some ⟨0x00FFFF05⟩) = some ⟨0x01FFFF15⟩ := by decide
  obtain ⟨-, least, sides⟩ :=
    (requiredSelect_least (access 1 0x10) (some ⟨0x00FFFF05⟩)).1 trivial
  exact ⟨needs, (least _ needs).1, (sides (debug 0x54) rfl (by decide)).1 _ needs⟩

end RegisterAddress

end DebugProbe
