import DebugProbe.Proofs.Register.Fields
import DebugProbe.Register.Address

/-!
# Registers within reach

An access port register is reached while SELECT names its port and its bank, a register at the
banked debug port address while SELECT names its bank, and any other debug port register always.
`RegisterAddress.requiredSelect` asks for a write of SELECT exactly when there is need for one, and
that write leaves alone what the register does not depend on.
-/

namespace DebugProbe

namespace RegisterAddress

/-- An access with the wire form of the register means the register while SELECT has this value. -/
def ReachedUnder (register : RegisterAddress) (select : UInt32) : Prop :=
  match register with
  | .debug address =>
    address &&& 0x0C = DebugPort.controlAddress →
      Select.debugPortBank.getByte select = register.bank
  | .access accessPort _ =>
    Select.accessPort.getByte select = accessPort ∧
      Select.accessPortBank.getByte select = register.bank

private theorem bank_narrow (register : RegisterAddress) : register.bank.toNat < 1 <<< 4 := by
  unfold bank
  rw [UInt8.toNat_shiftRight]
  have := register.register.toNat_lt
  show register.register.toNat >>> 4 < 16
  rw [Nat.shiftRight_eq_div_pow]
  omega

/-- The value of SELECT that a register needs, whatever SELECT holds. -/
private theorem reached_debug (address : UInt8) (held : UInt32) :
    (debug address).ReachedUnder (Select.debugPortBank.setByte (debug address).bank held) := by
  intro _
  exact BitField.getByte_setByte (by decide) held (bank_narrow _)

private theorem reached_access (accessPort address : UInt8) (held : UInt32) :
    (access accessPort address).ReachedUnder
      (Select.accessPortBank.setByte (access accessPort address).bank
        (Select.accessPort.setByte accessPort held)) := by
  constructor
  · rw [BitField.getByte_setByte_of_disjoint _ _ (by decide) (by decide)]
    exact BitField.getByte_setByte (by decide) held accessPort.toNat_lt
  · exact BitField.getByte_setByte (by decide) _ (bank_narrow _)

/-- A value that is not needed is the one that is believed to be held. -/
private theorem believed_of_filter {needed : Select} {current : Option Select}
    (enough : (some needed).filter (fun needed ↦ current != some needed) = none) :
    current = some needed := by
  rw [Option.filter_some] at enough
  split at enough
  · nomatch enough
  · next same => exact Decidable.not_not.mp fun differs ↦ same (bne_iff_ne.mpr differs)

/-- A register for which no write of SELECT is needed is reached already. -/
theorem reachedUnder_of_none {register : RegisterAddress} {current : Option Select}
    (enough : register.requiredSelect current = none) {select : UInt32}
    (agrees : ∀ held, current = some held → held.word = select) :
    register.ReachedUnder select := by
  cases register with
  | debug address =>
    by_cases banked : address &&& 0x0C = DebugPort.controlAddress
    · unfold requiredSelect at enough
      dsimp only at enough
      rw [if_pos banked] at enough
      rw [← agrees _ (believed_of_filter enough)]
      exact reached_debug address _
    · intro is
      exact absurd is banked
  | access accessPort address =>
    unfold requiredSelect at enough
    dsimp only at enough
    rw [← agrees _ (believed_of_filter enough)]
    exact reached_access accessPort address _

/-- A register is reached once the write of SELECT that it needs completed. -/
theorem reachedUnder_of_some {register : RegisterAddress} {current : Option Select}
    {needed : Select} (needs : register.requiredSelect current = some needed) :
    register.ReachedUnder needed.word := by
  unfold requiredSelect at needs
  cases register with
  | debug address =>
    dsimp only at needs
    split at needs
    · obtain ⟨same, -⟩ := Option.filter_eq_some_iff.mp needs
      obtain rfl := Option.some.inj same
      exact reached_debug address _
    · nomatch needs
  | access accessPort address =>
    dsimp only at needs
    obtain ⟨same, -⟩ := Option.filter_eq_some_iff.mp needs
    obtain rfl := Option.some.inj same
    exact reached_access accessPort address _

/-- Which register is meant depends on SELECT: each of an access port, and each at the banked debug
port address. -/
def Banked : RegisterAddress → Prop
  | .debug address => address &&& 0x0C = DebugPort.controlAddress
  | .access _ _ => True

/-- The bits of SELECT on which it depends whether a banked register is meant. -/
def selectMask : RegisterAddress → UInt32
  | .debug _ => Select.debugPortBank.mask
  | .access _ _ => Select.accessPort.mask ||| Select.accessPortBank.mask

/-- Two banked registers are in one bank: of the debug port, or of the same access port. -/
def SharesBank : RegisterAddress → RegisterAddress → Prop
  | .debug first, .debug second =>
    first &&& 0x0C = DebugPort.controlAddress ∧ second &&& 0x0C = DebugPort.controlAddress ∧
      first >>> 4 = second >>> 4
  | .access firstPort first, .access secondPort second =>
    firstPort = secondPort ∧ first >>> 4 = second >>> 4
  | _, _ => False

theorem SharesBank.banked {first second : RegisterAddress} (shares : first.SharesBank second) :
    first.Banked ∧ second.Banked :=
  match first, second, shares with
  | .debug _, .debug _, ⟨banked, banked', _⟩ => ⟨banked, banked'⟩
  | .access _ _, .access _ _, _ => ⟨trivial, trivial⟩

/-- Where one register is reached, the others of its bank are. -/
theorem SharesBank.reachedUnder {first second : RegisterAddress}
    (shares : first.SharesBank second) {select : UInt32} (reached : first.ReachedUnder select) :
    second.ReachedUnder select :=
  match first, second, shares with
  | .debug _, .debug _, ⟨banked, _, same⟩ => fun _ ↦ (reached banked).trans same
  | .access _ _, .access _ _, ⟨samePort, same⟩ => ⟨reached.1.trans samePort, reached.2.trans same⟩

/-- Where a banked register is reached, it is reached under just those values of SELECT that have
the same fields. -/
theorem reachedUnder_iff {register : RegisterAddress} (banked : register.Banked)
    {first second : UInt32} (reached : register.ReachedUnder first) :
    register.ReachedUnder second ↔
      second &&& register.selectMask = first &&& register.selectMask := by
  cases register with
  | debug address =>
    have here : Select.debugPortBank.getByte first = (debug address).bank := reached banked
    show (_ → _) ↔ second &&& Select.debugPortBank.mask = first &&& Select.debugPortBank.mask
    rw [← BitField.getByte_eq_getByte_iff (by decide) (by decide), here]
    exact ⟨fun there ↦ there banked, fun there _ ↦ there⟩
  | access accessPort address =>
    show _ ∧ _ ↔ second &&& (Select.accessPort.mask ||| Select.accessPortBank.mask) =
      first &&& (Select.accessPort.mask ||| Select.accessPortBank.mask)
    rw [BitField.and_or_eq_iff, ← BitField.getByte_eq_getByte_iff (by decide) (by decide),
      ← BitField.getByte_eq_getByte_iff (by decide) (by decide), reached.1, reached.2]

/-- Only banked registers need a write of SELECT. -/
theorem banked_of_some {register : RegisterAddress} {current : Option Select} {needed : Select}
    (needs : register.requiredSelect current = some needed) : register.Banked := by
  unfold requiredSelect at needs
  cases register with
  | debug address =>
    dsimp only at needs
    split at needs
    · assumption
    · nomatch needs
  | access accessPort address => trivial

/-- Nothing is written where a register is reached already. -/
theorem requiredSelect_of_reachedUnder {register : RegisterAddress} {held : Select}
    (reached : register.ReachedUnder held.word) : register.requiredSelect (some held) = none := by
  rcases held with ⟨word⟩
  have believed : (some (Select.mk word)).filter
      (fun needed ↦ some (Select.mk word) != some needed) = none := by
    rw [Option.filter_some, bne_self_eq_false]
    rfl
  unfold requiredSelect
  cases register with
  | debug address =>
    dsimp only [Option.getD_some]
    split
    · next banked =>
      rw [← reached banked, BitField.setByte_getByte (by decide)]
      exact believed
    · rfl
  | access accessPort address =>
    dsimp only [Option.getD_some]
    have bank : (access accessPort address).bank = Select.accessPortBank.getByte word :=
      reached.2.symm
    rw [bank, ← reached.1, BitField.setByte_getByte (by decide),
      BitField.setByte_getByte (by decide)]
    exact believed

/-- A banked register for which no write of SELECT is needed is reached under a value that is
known. -/
theorem exists_reachedUnder_of_none {register : RegisterAddress} {current : Option Select}
    (banked : register.Banked) (enough : register.requiredSelect current = none) :
    ∃ held, current = some held ∧ register.ReachedUnder held.word := by
  cases current with
  | some held =>
    exact ⟨held, rfl, reachedUnder_of_none enough fun _ same ↦
      congrArg Select.word (Option.some.inj same).symm⟩
  | none =>
    unfold requiredSelect at enough
    cases register with
    | debug address =>
      dsimp only at enough
      split at enough
      · nomatch enough
      · next unbanked => exact absurd banked unbanked
    | access accessPort address => nomatch enough

theorem requiredSelect_of_not_banked {register : RegisterAddress} (unbanked : ¬register.Banked)
    (current : Option Select) : register.requiredSelect current = none :=
  Option.eq_none_iff_forall_ne_some.mpr fun _ needs ↦ unbanked (banked_of_some needs)

/-- Once SELECT is written for a register, all registers in its bank are reached. -/
theorem SharesBank.requiredSelect_of_some {first second : RegisterAddress}
    (shares : first.SharesBank second) {current : Option Select} {needed : Select}
    (needs : first.requiredSelect current = some needed) :
    second.requiredSelect (some needed) = none :=
  requiredSelect_of_reachedUnder (shares.reachedUnder (reachedUnder_of_some needs))

/-- If SELECT fits one register of a bank it fits all. -/
theorem SharesBank.requiredSelect_of_none {first second : RegisterAddress}
    (shares : first.SharesBank second) {current : Option Select}
    (enough : first.requiredSelect current = none) : second.requiredSelect current = none := by
  obtain ⟨held, rfl, reached⟩ := exists_reachedUnder_of_none shares.banked.1 enough
  exact requiredSelect_of_reachedUnder (shares.reachedUnder reached)

/-- A write of SELECT for a register leaves all bits alone on which the register does not depend. -/
theorem and_not_selectMask_of_some {register : RegisterAddress} {current : Option Select}
    {needed : Select} (needs : register.requiredSelect current = some needed) :
    needed.word &&& ~~~register.selectMask =
      (current.getD ⟨0⟩).word &&& ~~~register.selectMask := by
  unfold requiredSelect at needs
  unfold selectMask
  cases register with
  | debug address =>
    dsimp only at needs ⊢
    split at needs
    · obtain ⟨same, -⟩ := Option.filter_eq_some_iff.mp needs
      obtain rfl := Option.some.inj same
      exact BitField.set_and (by decide) _ _
    · nomatch needs
  | access accessPort address =>
    dsimp only at needs ⊢
    obtain ⟨same, -⟩ := Option.filter_eq_some_iff.mp needs
    obtain rfl := Option.some.inj same
    unfold BitField.setByte
    rw [BitField.set_and (by decide), BitField.set_and (by decide)]

end RegisterAddress

end DebugProbe
