import DebugProbe.Bytes
import Std.Data.HashMap

/-!
# Simulated memory

A byte-addressed memory of 4 GiB that holds zeros wherever nothing was written. Addresses wrap.
Specification: `SPEC_FULL.md` §10.
-/

namespace DebugProbe

/-- The bytes that were written, by address. -/
structure Memory where
  cells : Std.HashMap UInt32 UInt8 := ∅

namespace Memory

/-- The byte at an address. -/
def byte (memory : Memory) (address : UInt32) : UInt8 := memory.cells.getD address 0

/-- The memory with a new byte at an address. -/
def setByte (memory : Memory) (address : UInt32) (value : UInt8) : Memory :=
  ⟨memory.cells.insert address value⟩

/-- The bytes from an address on. -/
def bytes (memory : Memory) (address : UInt32) : (count : Nat) → Bytes
  | 0 => []
  | count + 1 => memory.byte address :: memory.bytes (address + 1) count

/-- The memory with new bytes from an address on. -/
def setBytes (memory : Memory) (address : UInt32) : Bytes → Memory
  | [] => memory
  | value :: rest => (memory.setByte address value).setBytes (address + 1) rest

/-- The little-endian word at an address. -/
def word (memory : Memory) (address : UInt32) : UInt32 := Bytes.uint32At (memory.bytes address 4) 0

/-- A byte that was written is read back; all others are as before. -/
@[simp] theorem byte_setByte (memory : Memory) (address other : UInt32) (value : UInt8) :
    (memory.setByte address value).byte other =
      if address = other then value else memory.byte other := by
  simp [byte, setByte, Std.HashMap.getD_insert]

end Memory

end DebugProbe
