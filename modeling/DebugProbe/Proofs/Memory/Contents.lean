import DebugProbe.Bytes

/-!
# Contents of a memory

A memory of 4 GiB as a function of its addresses. Runs of bytes are read from and laid over a memory
from an address on that is counted without bound; reading wraps at the end of the memory.
-/

namespace DebugProbe

/-- The bytes of a memory, by address. -/
abbrev Contents := UInt32 → UInt8

namespace Contents

/-- The bytes from an address on. -/
def bytes (contents : Contents) (address count : Nat) : Bytes :=
  (List.range' address count).map fun location ↦ contents (UInt32.ofNat location)

/-- The memory with other bytes from an address on. -/
def overlay (contents : Contents) (address : Nat) (data : Bytes) : Contents := fun location ↦
  if address ≤ location.toNat then data[location.toNat - address]?.getD (contents location)
  else contents location

@[simp] theorem length_bytes (contents : Contents) (address count : Nat) :
    (contents.bytes address count).length = count := by
  unfold bytes
  rw [List.length_map, List.length_range']

/-- Each byte comes from its own address. -/
theorem getElem?_bytes (contents : Contents) (address : Nat) {count position : Nat}
    (less : position < count) :
    (contents.bytes address count)[position]? =
      some (contents (UInt32.ofNat (address + position))) := by
  unfold bytes
  rw [List.getElem?_map, List.getElem?_range' less, Nat.one_mul]
  rfl

/-- Bytes are read in one go or in two. -/
theorem bytes_add (contents : Contents) (address first second : Nat) :
    contents.bytes address (first + second) =
      contents.bytes address first ++ contents.bytes (address + first) second := by
  unfold bytes
  rw [← List.map_append, ← List.range'_append_1]

@[simp] theorem overlay_nil (contents : Contents) (address : Nat) :
    contents.overlay address [] = contents := by
  funext location
  unfold overlay
  split
  · rfl
  · rfl

/-- Bytes are laid over a memory in one go or in two. -/
theorem overlay_append (contents : Contents) (address : Nat) (first second : Bytes) :
    contents.overlay address (first ++ second) =
      (contents.overlay address first).overlay (address + first.length) second := by
  funext location
  unfold overlay
  by_cases within : address + first.length ≤ location.toNat
  · have behind : first.length ≤ location.toNat - address := by omega
    have above := Nat.le_trans (Nat.le_add_right _ _) within
    rw [if_pos within, if_pos above, if_pos above, List.getElem?_append_right behind,
      List.getElem?_eq_none behind, Nat.sub_sub]
    rfl
  · rw [if_neg within]
    split
    · next above => rw [List.getElem?_append_left (by omega)]
    · rfl

/-- Bytes that were laid over a memory are read back. -/
theorem bytes_overlay (contents : Contents) {address : Nat} {data : Bytes}
    (fits : address + data.length ≤ UInt32.size) :
    (contents.overlay address data).bytes address data.length = data := by
  apply List.ext_getElem?
  intro position
  by_cases less : position < data.length
  · rw [getElem?_bytes _ _ less]
    unfold overlay
    rw [UInt32.toNat_ofNat_of_lt' (by omega), if_pos (Nat.le_add_right _ _),
      Nat.add_sub_cancel_left, List.getElem?_eq_getElem less]
    rfl
  · rw [List.getElem?_eq_none (Nat.le_of_not_lt less), List.getElem?_eq_none]
    rw [length_bytes]
    exact Nat.le_of_not_lt less

end Contents

end DebugProbe
