import DebugProbe.Bytes

/-!
# CRC-32

The reflected cyclic redundancy check with the polynomial `0xEDB88320`, all ones before and
inverted after.
Specification: `SPEC_FULL.md` §4.5.
-/

namespace DebugProbe

namespace Checksum

/-- One division step: the register moves down a place, and a one that falls out subtracts the
polynomial. -/
def shift (register : UInt32) : UInt32 :=
  if register &&& 1 = 1 then (register >>> 1) ^^^ 0xEDB88320 else register >>> 1

/-- Takes one byte into the register. -/
def feed (register : UInt32) (byte : UInt8) : UInt32 :=
  (List.range 8).foldl (fun r _ ↦ shift r) (register ^^^ byte.toUInt32)

/-- The checksum of a byte string. -/
def crc32 (bytes : Bytes) : UInt32 := bytes.foldl feed 0xFFFFFFFF ^^^ 0xFFFFFFFF

/-- The digits from one to nine have the check value by which this checksum is known. -/
example : crc32 [0x31, 0x32, 0x33, 0x34, 0x35, 0x36, 0x37, 0x38, 0x39] = 0xCBF43926 := by
  decide +kernel

end Checksum

end DebugProbe
