import DebugProbe.Bytes
import Mathlib.Data.List.GetD

/-!
# Bits in bytes

Bits travel in whole bytes, eight to a byte and the first one in the least significant place. The
bits of the bytes are the bits that were packed, filled up with zeros to the end of the last byte.
-/

namespace DebugProbe

namespace Bytes

/-- The number whose binary digits, least significant first, are given. -/
def ofDigits (digits : List Bool) : Nat :=
  digits.foldr (fun bit value ↦ (if bit then 1 else 0) + 2 * value) 0

theorem ofBits_cons (bit : Bool) (rest : List Bool) :
    ofBits (bit :: rest) =
      UInt8.ofNat (ofDigits ((bit :: rest).take 8)) :: ofBits ((bit :: rest).drop 8) := by
  rw [ofBits]
  rfl

/-- The digits of a number are told by its bits, and above them there are zeros. -/
theorem testBit_ofDigits (digits : List Bool) (place : Nat) :
    (ofDigits digits).testBit place = digits.getD place false := by
  induction digits generalizing place with
  | nil => simp [ofDigits]
  | cons digit digits ih =>
    show ((if digit then 1 else 0) + 2 * ofDigits digits).testBit place = _
    cases place with
    | zero => cases digit <;> simp [Nat.testBit_zero, Nat.add_mod]
    | succ place =>
      have half : ((if digit then 1 else 0) + 2 * ofDigits digits) / 2 = ofDigits digits := by
        split <;> omega
      rw [Nat.testBit_succ, half, ih, List.getD_cons_succ]

/-- A byte of up to eight digits holds them in order, with zeros above. -/
theorem bits_ofDigits {digits : List Bool} (few : digits.length ≤ 8) :
    bits [UInt8.ofNat (ofDigits digits)] =
      digits ++ List.replicate (8 - digits.length) false := by
  have small : ofDigits digits < 256 := by
    refine Nat.lt_pow_two_of_testBit (ofDigits digits) fun place (above : 8 ≤ place) ↦ ?_
    rw [testBit_ofDigits]
    exact List.getD_eq_default _ _ (by omega)
  have byte : (UInt8.ofNat (ofDigits digits)).toNat = ofDigits digits :=
    UInt8.toNat_ofNat_of_lt' small
  apply List.ext_getElem
  · simp [bits]; omega
  · intro place inside _
    simp only [bits, List.flatMap_cons, List.flatMap_nil, List.append_nil, List.getElem_map,
      List.getElem_range, byte, testBit_ofDigits]
    by_cases held : place < digits.length
    · rw [List.getElem_append_left held, List.getD_eq_getElem _ _ held]
    · rw [List.getElem_append_right (by omega), List.getElem_replicate,
        List.getD_eq_default _ _ (by omega)]

theorem bits_cons (byte : UInt8) (rest : Bytes) :
    bits (byte :: rest) = bits [byte] ++ bits rest := by
  simp [bits]

/-- Packed bits need as many bytes as they fill, the last one perhaps in part. -/
@[simp] theorem length_ofBits (digits : List Bool) :
    (ofBits digits).length = sizeOfBits digits.length := by
  induction digits using ofBits.induct with
  | case1 => rw [ofBits]; rfl
  | case2 bit rest ih =>
    have left : (rest.drop 7).length = rest.length - 7 := List.length_drop
    rw [ofBits, List.length_cons, ih, left, List.length_cons]
    simp only [sizeOfBits]
    omega

/-- The bits of packed bits begin with them. -/
theorem bits_ofBits (digits : List Bool) :
    (bits (ofBits digits)).take digits.length = digits := by
  induction digits using ofBits.induct with
  | case1 => rfl
  | case2 bit rest ih =>
    have few : ((bit :: rest).take 8).length ≤ 8 := List.length_take_le 8 _
    rw [ofBits_cons, bits_cons, bits_ofDigits few]
    by_cases last : (bit :: rest).length ≤ 8
    · rw [List.take_of_length_le last, List.append_assoc, List.take_left]
    · have whole : ((bit :: rest).take 8).length = 8 := by rw [List.length_take]; omega
      have split : (bit :: rest).length = 8 + (rest.drop 7).length := by
        simp only [List.length_cons, List.length_drop] at last ⊢
        omega
      have later : (bit :: rest).drop 8 = rest.drop 7 := rfl
      rw [whole, Nat.sub_self, List.replicate_zero, List.append_nil, split, List.take_append, whole,
        Nat.add_sub_cancel_left, List.take_of_length_le (by omega), later, ih, ← later,
        List.take_append_drop]

end Bytes

end DebugProbe
