import DebugProbe.Proofs.Memory.Lanes
import DebugProbe.Proofs.Register.Fields
import DebugProbe.Proofs.Simulator.Select

/-!
# The memory port of the simulated target

Access port zero of the simulated target is a memory access port: its control word, address and data
register do what the library expects of them.
-/

namespace DebugProbe

/-- Clearing the low bits of a word rounds it down. -/
private theorem toNat_and_not {mask : UInt32} {bits : Nat}
    (low : ∀ position < 32, mask.toNat.testBit position = decide (position < bits))
    (word : UInt32) : (word &&& ~~~mask).toNat = word.toNat >>> bits <<< bits := by
  apply Nat.eq_of_testBit_eq
  intro position
  rw [UInt32.toNat_and, Nat.testBit_and, Nat.testBit_shiftLeft, Nat.testBit_shiftRight]
  by_cases small : position < 32
  · rw [BitField.testBit_not _ small, low position small]
    by_cases above : bits ≤ position
    · simp [above, Nat.not_lt.mpr above]
    · simp [above, Nat.lt_of_not_le above]
  · have none := BitField.testBit_eq_false word (Nat.le_of_not_lt small)
    by_cases above : bits ≤ position
    · simp [none, above]
    · simp [none, above]

private theorem toNat_window (address : UInt32) :
    (address &&& ~~~(0x3FF : UInt32)).toNat = 1024 * (address.toNat / 1024) := by
  rw [toNat_and_not (by decide : ∀ position < 32, _ = decide (position < 10)),
    Nat.shiftLeft_eq, Nat.shiftRight_eq_div_pow]
  exact Nat.mul_comm _ _

/-- The word that holds a byte begins at a multiple of four. -/
private theorem toNat_word (address : UInt32) :
    (address &&& ~~~(3 : UInt32)).toNat = 4 * (address.toNat / 4) := by
  rw [toNat_and_not (by decide : ∀ position < 32, _ = decide (position < 2)),
    Nat.shiftLeft_eq, Nat.shiftRight_eq_div_pow]
  exact Nat.mul_comm _ _

/-- The address within a window is counted up apart from the rest of it. -/
private theorem window_step (address step : UInt32) :
    (address &&& ~~~(0x3FF : UInt32)) ||| ((address + step) &&& 0x3FF) =
      address - address % 0x400 + (address + step) % 0x400 := by
  have low : ((address + step) &&& 0x3FF).toNat = (address + step).toNat % 2 ^ 10 := by
    rw [UInt32.toNat_and]
    exact Nat.and_two_pow_sub_one_eq_mod _ 10
  have small : (address + step).toNat % 2 ^ 10 < 2 ^ 10 := Nat.mod_lt _ (by decide)
  have le : address % 0x400 ≤ address := by
    rw [UInt32.le_iff_toNat_le, UInt32.toNat_mod]
    exact Nat.mod_le _ _
  apply UInt32.toNat_inj.mp
  rw [UInt32.toNat_or, low, toNat_window]
  apply (Nat.two_pow_add_eq_or_of_lt small (address.toNat / 1024)).symm.trans
  rw [UInt32.toNat_add (address - _),
    UInt32.toNat_sub_of_le _ _ le, UInt32.toNat_mod, UInt32.toNat_mod]
  have bound := address.toNat_lt
  generalize (address + step).toNat = next at small
  show 2 ^ 10 * (address.toNat / 2 ^ 10) + next % 2 ^ 10 =
    (address.toNat - address.toNat % 1024 + next % 1024) % 2 ^ 32
  omega

namespace Memory

/-- The bytes of a simulated memory are those of its contents. -/
theorem bytes_ofNat (memory : Memory) (address count : Nat) :
    memory.bytes (UInt32.ofNat address) count = Contents.bytes memory.byte address count := by
  induction count generalizing address with
  | zero => rfl
  | succ count ih =>
    have next : UInt32.ofNat address + 1 = UInt32.ofNat (address + 1) :=
      (UInt32.ofNat_add address 1).symm
    rw [Memory.bytes, next, ih, Nat.add_comm count 1, Contents.bytes_add]
    rfl

/-- A byte that is stored is laid over the contents. -/
theorem byte_setByte_ofNat (memory : Memory) {address : Nat} (small : address < UInt32.size)
    (value : UInt8) : (memory.setByte (UInt32.ofNat address) value).byte =
      Contents.overlay memory.byte address [value] := by
  funext location
  rw [byte_setByte]
  unfold Contents.overlay
  by_cases same : UInt32.ofNat address = location
  · subst same
    rw [if_pos rfl, UInt32.toNat_ofNat_of_lt' small, if_pos (Nat.le_refl _), Nat.sub_self]
    rfl
  · have other : location.toNat ≠ address := by
      rintro rfl
      exact same UInt32.ofNat_toNat
    rw [if_neg same]
    split
    · rw [List.getElem?_eq_none (by show 1 ≤ _; omega)]
      rfl
    · rfl

/-- Bytes that are stored are laid over the contents. -/
theorem byte_setBytes (memory : Memory) {address : Nat} {data : Bytes}
    (fits : address + data.length ≤ UInt32.size) :
    (memory.setBytes (UInt32.ofNat address) data).byte =
      Contents.overlay memory.byte address data := by
  induction data generalizing memory address with
  | nil => exact (Contents.overlay_nil _ _).symm
  | cons value rest ih =>
    rw [List.length_cons] at fits
    have next : UInt32.ofNat address + 1 = UInt32.ofNat (address + 1) :=
      (UInt32.ofNat_add address 1).symm
    rw [setBytes, next, ih _ (by omega), byte_setByte_ofNat memory (by omega)]
    exact (Contents.overlay_append _ address [value] rest).symm

end Memory

namespace Target

/-- What is seen of the memory port of a simulated target. -/
def portState (target : Target) : PortState := ⟨target.csw, target.tar, target.memory.byte⟩

/-- The memory port. -/
def memoryPort : MemoryPort := ⟨0⟩

@[simp] theorem portState_takeAnswer (target : Target) :
    target.takeAnswer.2.portState = target.portState := by
  unfold takeAnswer
  split <;> rfl

/-- The registers of the memory port are in its first bank. -/
private theorem selected_of_reached {target : Target} {address : UInt8}
    (reached : (RegisterAddress.access 0 address).ReachedUnder target.select)
    (first : address >>> 4 = 0) (low : UInt8) : target.selected low = (0, low) := by
  obtain ⟨port, bank⟩ := reached
  have bank : Select.accessPortBank.getByte target.select = 0 := bank.trans first
  unfold selected
  rw [port, bank]
  exact congrArg (Prod.mk 0) UInt8.zero_or

/-- The address counts up as that of the port does. -/
theorem portState_advance {target : Target} {size : AccessSize}
    (csw : target.csw = (ControlWord.ofSize size).word) :
    target.advance.portState = target.portState.advance size := by
  have single : ControlWord.increment.get (ControlWord.ofSize size).word = 1 := by
    cases size <;> decide
  have step : (1 : UInt32) <<< ControlWord.size.get (ControlWord.ofSize size).word =
      UInt32.ofNat size.width := by
    cases size <;> decide
  rw [← csw] at single step
  unfold advance
  rw [if_pos single, step]
  exact congrArg (PortState.mk target.csw · target.memory.byte) (window_step target.tar _)

/-- An access that is carried out meets the port as it was, once its answer is taken. -/
private theorem perform_of_completes {transfer : Transfer} {word : Option UInt32}
    {target next : Target} (step : model.completes transfer word target next) :
    ∃ taken, taken.portState = target.portState ∧ taken.select = target.select ∧
      perform transfer taken = (word, next) :=
  ⟨_, portState_takeAnswer target, select_takeAnswer target, perform_of_access step⟩

/-- Accesses to the debug port leave the memory port alone. -/
private theorem portState_debug {transfer : Transfer} (side : transfer.port = .debug)
    (target : Target) : (perform transfer target).2.portState = target.portState := by
  rcases transfer with ⟨_ | _, address, _ | value⟩
  · rfl
  · show (target.writeDebug _ value).portState = target.portState
    unfold writeDebug
    split
    · rfl
    · split
      · rfl
      · split <;> rfl
  · nomatch side
  · nomatch side

/-- A write that reaches a register of the port writes that register. -/
private theorem perform_write {address : UInt8} {target : Target}
    (reached : (RegisterAddress.access 0 address).ReachedUnder target.select)
    (first : address >>> 4 = 0) (low : address &&& 0x0C = address) (value : UInt32) :
    perform (RegisterAccess.write (.access 0 address) value).wire target =
        (none, target.writeAccess address value) ∧
      target.selected address = (0, address) := by
  refine ⟨?_, selected_of_reached reached first address⟩
  show (none, target.writeAccess (((address &&& 0x0C) &&& 0x0C) &&& 0x0C) value) = _
  rw [low, low, low]

/-- A read that reaches the data register reads the memory. -/
private theorem perform_read {target : Target}
    (reached : memoryPort.drw.ReachedUnder target.select) :
    (perform (RegisterAccess.read memoryPort.drw).wire target).1 =
        some (target.memory.word target.wordAddress) ∧
      (perform (RegisterAccess.read memoryPort.drw).wire target).2.portState =
        target.advance.portState := by
  have key := selected_of_reached reached (by decide) 0x0C
  have low : (((0x0C &&& 0x0C) &&& 0x0C) &&& 0x0C : UInt8) = 0x0C := by decide
  have read : target.readAccess 0x0C =
      (target.memory.word target.wordAddress, target.advance) := by
    unfold readAccess
    dsimp only
    rw [key, if_neg (by decide), if_neg (by decide), if_pos rfl]
  show (some (target.readAccess (((0x0C &&& 0x0C) &&& 0x0C) &&& 0x0C)).1) = _ ∧
    (target.readAccess (((0x0C &&& 0x0C) &&& 0x0C) &&& 0x0C)).2.portState = _
  rw [low, read]
  exact ⟨rfl, rfl⟩

/-- The word that holds the byte at the address register begins at a multiple of four. -/
private theorem wordAddress_eq (target : Target) :
    target.wordAddress = UInt32.ofNat (4 * (target.tar.toNat / 4)) := by
  apply UInt32.toNat_inj.mp
  have small := target.tar.toNat_lt
  rw [UInt32.toNat_ofNat_of_lt' (by show _ < 4294967296; omega)]
  exact toNat_word target.tar

/-- The word that is read carries the bytes of the memory in order. -/
private theorem lanes_word (target : Target) :
    AccessSize.lanes .word (UInt32.ofNat (4 * (target.tar.toNat / 4)))
        (target.memory.word target.wordAddress) =
      Contents.bytes target.memory.byte (4 * (target.tar.toNat / 4)) 4 := by
  rw [AccessSize.lanes_word (Nat.mul_mod_right 4 _), wordAddress_eq]
  unfold Memory.word
  rw [Memory.bytes_ofNat]
  have size := Contents.length_bytes target.memory.byte (4 * (target.tar.toNat / 4)) 4
  exact (Bytes.ofUInt32_uint32At (Nat.le_of_eq size.symm)).trans
    (List.take_of_length_le (Nat.le_of_eq size))

/-- The word at the data register carries the bytes of the memory there. -/
private theorem lanes_read {size : AccessSize} {target : Target}
    (aligned : target.tar.toNat % size.width = 0) :
    size.lanes target.tar (target.memory.word target.wordAddress) =
      Contents.bytes target.memory.byte target.tar.toNat size.width := by
  have word := lanes_word target
  cases size with
  | word =>
    have whole : 4 * (target.tar.toNat / 4) = target.tar.toNat :=
      Nat.mul_div_cancel' (Nat.dvd_of_mod_eq_zero aligned)
    rw [whole, UInt32.ofNat_toNat] at word
    exact word
  | byte =>
    -- The byte is on the lane that its address has in the word around it.
    have place : 4 * (target.tar.toNat / 4) + target.tar.toNat % 4 = target.tar.toNat :=
      Nat.div_add_mod _ 4
    have less : target.tar.toNat % 4 < 4 := Nat.mod_lt _ (by decide)
    have lane := congrArg (·[target.tar.toNat % 4]?) word
    unfold AccessSize.lanes at lane
    dsimp only [AccessSize.width] at lane
    rw [List.getElem?_map, List.getElem?_range less, Contents.getElem?_bytes _ _ less, place,
      Option.map_some, ← UInt32.ofNat_add, place, UInt32.ofNat_toNat] at lane
    rw [AccessSize.lanes_byte, Option.some.inj lane]
    exact congrArg (fun location ↦ [target.memory.byte location]) UInt32.ofNat_toNat.symm

/-- What is written to the data register is stored in the memory. -/
private theorem portState_store {size : AccessSize} {target : Target}
    (setFor : target.portState.SetFor size) (value : UInt32) :
    (target.store value).portState = target.portState.store size value := by
  obtain ⟨csw, aligned⟩ := setFor
  change target.csw = _ at csw
  change target.tar.toNat % size.width = 0 at aligned
  unfold store
  cases size with
  | byte =>
    have one : ControlWord.size.get target.csw = 0 := by
      rw [csw]
      decide
    rw [if_pos one]
    have stored := Memory.byte_setByte_ofNat target.memory target.tar.toNat_lt
      (value >>> MemorySpan.laneShift target.tar).toUInt8
    rw [UInt32.ofNat_toNat, ← AccessSize.lanes_byte] at stored
    exact congrArg (PortState.mk target.csw target.tar) stored
  | word =>
    have whole : 4 * (target.tar.toNat / 4) = target.tar.toNat :=
      Nat.mul_div_cancel' (Nat.dvd_of_mod_eq_zero aligned)
    have small := target.tar.toNat_lt
    have fits : target.tar.toNat + (Bytes.ofUInt32 value).length ≤ UInt32.size := by
      show target.tar.toNat + 4 ≤ 4294967296
      omega
    have stored := Memory.byte_setBytes target.memory fits
    have lanes := AccessSize.lanes_word aligned value
    rw [UInt32.ofNat_toNat] at lanes
    have four : ControlWord.size.get target.csw ≠ 0 := by
      rw [csw]
      decide
    have start := wordAddress_eq target
    rw [whole] at start
    rw [← start, ← lanes] at stored
    rw [if_neg four, ← lanes]
    exact congrArg (PortState.mk target.csw target.tar) stored

/-- The simulated target has a memory access port. -/
theorem hasMemoryPort : MemoryTarget model memoryPort select portState where
  tracks := tracks
  refuses := by
    intro transfer code target next step
    rw [(refused_of_access step).2]
    exact portState_takeAnswer target
  debug := by
    intro transfer word target next step side
    obtain ⟨taken, port, -, performed⟩ := perform_of_completes step
    have after := portState_debug side taken
    rw [performed] at after
    exact after.trans port
  csw := by
    intro value word target next step reached
    obtain ⟨taken, port, held, performed⟩ := perform_of_completes step
    rw [← held] at reached
    obtain ⟨writes, key⟩ := perform_write reached (by decide) (by decide) value
    have written : taken.writeAccess 0x00 value = { taken with csw := value } := by
      unfold writeAccess
      dsimp only
      rw [key, if_pos rfl]
    have after := congrArg (fun result ↦ result.2.portState) (performed.symm.trans writes)
    rw [written] at after
    rw [← port]
    exact after
  tar := by
    intro value word target next step reached
    obtain ⟨taken, port, held, performed⟩ := perform_of_completes step
    rw [← held] at reached
    obtain ⟨writes, key⟩ := perform_write reached (by decide) (by decide) value
    have written : taken.writeAccess 0x04 value =
        { taken with tar := value, addresses := taken.addresses.push value } := by
      unfold writeAccess
      dsimp only
      rw [key, if_neg (by decide), if_pos rfl]
    have after := congrArg (fun result ↦ result.2.portState) (performed.symm.trans writes)
    rw [written] at after
    rw [← port]
    exact after
  read := by
    intro size word target next step reached setFor
    obtain ⟨taken, port, held, performed⟩ := perform_of_completes step
    rw [← held] at reached
    rw [← port] at setFor ⊢
    obtain ⟨found, after⟩ := perform_read reached
    rw [performed] at found after
    obtain rfl := Option.some.inj found
    exact ⟨lanes_read setFor.2, after.trans (portState_advance setFor.1)⟩
  write := by
    intro size value word target next step reached setFor
    obtain ⟨taken, port, held, performed⟩ := perform_of_completes step
    rw [← held] at reached
    rw [← port] at setFor ⊢
    obtain ⟨writes, key⟩ := perform_write reached (by decide) (by decide) value
    have written : taken.writeAccess 0x0C value = (taken.store value).advance := by
      unfold writeAccess
      dsimp only
      rw [key, if_neg (by decide), if_neg (by decide), if_pos rfl]
    have after := congrArg (fun result ↦ result.2.portState) (performed.symm.trans writes)
    rw [written] at after
    have csw : (taken.store value).csw = (ControlWord.ofSize size).word :=
      (congrArg PortState.csw (portState_store setFor value)).trans setFor.1
    rw [← portState_store setFor value, ← portState_advance csw]
    exact after

end Target

end DebugProbe
