import DebugProbe.Proofs.Memory.Port

/-!
# Byte lanes

Each byte of a data word travels on the lane that belongs to its address. A word at an aligned
address carries its four bytes in little-endian order.
-/

namespace DebugProbe

namespace Bytes

/-- The word at the start of bytes has the first four of them. -/
theorem ofUInt32_uint32At {bytes : Bytes} (long : 4 ≤ bytes.length) :
    ofUInt32 (bytes.uint32At 0) = bytes.take 4 := by
  have size : (bytes.take 4).length = 4 := List.length_take_of_le long
  have bound := number_lt_capacity (bytes.take 4)
  rw [size] at bound
  have fits : number (bytes.take 4) < UInt32.size := bound
  have same := ofNumber_number (bytes.take 4)
  rw [size] at same
  unfold ofUInt32 uint32At
  rw [List.drop_zero, UInt32.toNat_ofNat_of_lt' fits, same]

/-- Bytes cut into words are put together again. -/
theorem ofWords_words {count : Nat} {bytes : Bytes} (size : bytes.length = 4 * count) :
    ofWords (words count bytes) = bytes := by
  induction count generalizing bytes with
  | zero =>
    rw [List.eq_nil_of_length_eq_zero size]
    rfl
  | succ count ih =>
    have later : (bytes.drop 4).length = 4 * count := by
      rw [List.length_drop]
      omega
    show ofUInt32 (bytes.uint32At 0) ++ ofWords (words count (bytes.drop 4)) = bytes
    rw [ofUInt32_uint32At (by omega), ih later, List.take_append_drop]

end Bytes

namespace MemorySpan

/-- The lane of a byte is given by its place in the word. -/
theorem toNat_laneShift (address : UInt32) :
    (laneShift address).toNat = 8 * (address.toNat % 4) := by
  have place : (address &&& 3).toNat = address.toNat % 4 := by
    rw [UInt32.toNat_and]
    exact Nat.and_two_pow_sub_one_eq_mod address.toNat 2
  unfold laneShift
  rw [UInt32.toNat_mul, place]
  show address.toNat % 4 * 8 % 4294967296 = _
  omega

/-- The byte on a lane of a word. -/
theorem toNat_lane (address word : UInt32) :
    (word >>> laneShift address).toUInt8.toNat =
      word.toNat >>> (8 * (address.toNat % 4)) % 256 := by
  rw [UInt32.toNat_toUInt8, UInt32.toNat_shiftRight, toNat_laneShift,
    Nat.mod_eq_of_lt (a := 8 * (address.toNat % 4)) (by omega)]

end MemorySpan

namespace AccessSize

theorem lanes_byte (address word : UInt32) :
    lanes .byte address word = [(word >>> MemorySpan.laneShift address).toUInt8] := by
  show [(word >>> MemorySpan.laneShift (address + 0)).toUInt8] = _
  rw [UInt32.add_zero]

/-- A byte that is put on its lane is found there. -/
theorem lanes_shifted (address : UInt32) (byte : UInt8) :
    lanes .byte address (byte.toUInt32 <<< MemorySpan.laneShift address) = [byte] := by
  rw [lanes_byte]
  refine congrArg (· :: []) ?_
  apply UInt8.toNat_inj.mp
  have small := byte.toNat_lt
  rw [MemorySpan.toNat_lane, UInt32.toNat_shiftLeft, MemorySpan.toNat_laneShift,
    UInt8.toNat_toUInt32]
  have place : address.toNat % 4 < 4 := Nat.mod_lt _ (by decide)
  generalize address.toNat % 4 = lane at place
  have wide : 8 * lane % 32 = 8 * lane := by omega
  have room : byte.toNat <<< (8 * lane) < 2 ^ 32 := by
    have most := Nat.pow_le_pow_right Nat.zero_lt_two (by omega : 8 + 8 * lane ≤ 32)
    rw [Nat.pow_add] at most
    rw [Nat.shiftLeft_eq]
    exact Nat.lt_of_lt_of_le (Nat.mul_lt_mul_of_pos_right small (Nat.two_pow_pos _)) most
  rw [wide, Nat.mod_eq_of_lt room, Nat.shiftLeft_shiftRight, Nat.mod_eq_of_lt small]

/-- A word at an aligned address carries its bytes in order. -/
theorem lanes_word {address : Nat} (aligned : address % 4 = 0) (word : UInt32) :
    lanes .word (UInt32.ofNat address) word = Bytes.ofUInt32 word := by
  have lane (offset : Nat) (less : offset < 4) :
      (word >>> MemorySpan.laneShift (UInt32.ofNat address + UInt32.ofNat offset)).toUInt8 =
        UInt8.ofNat (word.toNat >>> (8 * offset)) := by
    apply UInt8.toNat_inj.mp
    rw [MemorySpan.toNat_lane, UInt8.toNat_ofNat', UInt32.toNat_add, UInt32.toNat_ofNat',
      UInt32.toNat_ofNat']
    have place : (address % UInt32.size + offset % UInt32.size) % UInt32.size % 4 = offset := by
      show (address % 4294967296 + offset % 4294967296) % 4294967296 % 4 = offset
      omega
    exact congrArg (fun lane ↦ word.toNat >>> (8 * lane) % 256) place
  unfold lanes Bytes.ofUInt32
  show [_, _, _, _] = [_, _, _, _]
  dsimp only
  rw [lane 0 (by decide), lane 1 (by decide), lane 2 (by decide), lane 3 (by decide)]
  simp only [Nat.shiftRight_eq_div_pow, Nat.div_div_eq_div_mul, Nat.mul_zero, Nat.pow_zero,
    Nat.div_one]

end AccessSize

end DebugProbe
