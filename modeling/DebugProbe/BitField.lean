/-!
# Fields of 32-bit registers

A field is a run of adjacent bits of a register word. Reading gives its value shifted down to bit
zero; writing keeps as many low bits of the new value as the field holds and leaves every other bit
of the word alone.
Specification: `SPEC_FULL.md` §3.
-/

namespace DebugProbe

/-- A run of `width` bits whose least significant one is bit `low`. -/
structure BitField where
  low : Nat
  width : Nat
  deriving DecidableEq, Repr

namespace BitField

/-- The field between two bit positions, both included. -/
def between (high low : Nat) : BitField := ⟨low, high + 1 - low⟩

/-- The field of a single bit. -/
def bit (position : Nat) : BitField := ⟨position, 1⟩

/-- The word that has ones in the places of the field and zeros elsewhere. -/
def mask (field : BitField) : UInt32 := UInt32.ofNat ((1 <<< field.width - 1) <<< field.low)

/-- The value of the field in a word. -/
def get (field : BitField) (word : UInt32) : UInt32 :=
  UInt32.ofNat ((word.toNat >>> field.low) % (1 <<< field.width))

/-- The word with the field replaced by the low bits of `value`. -/
def set (field : BitField) (value word : UInt32) : UInt32 :=
  (word &&& ~~~field.mask) ||| (UInt32.ofNat (value.toNat <<< field.low) &&& field.mask)

/-- The value of a field of at most eight bits. -/
def getByte (field : BitField) (word : UInt32) : UInt8 := (field.get word).toUInt8

/-- The word with the field replaced by the low bits of a byte. -/
def setByte (field : BitField) (value : UInt8) (word : UInt32) : UInt32 :=
  field.set value.toUInt32 word

/-- Whether a one-bit field is set. -/
def test (field : BitField) (word : UInt32) : Bool := field.get word != 0

/-- The word with a one-bit field set or cleared. -/
def put (field : BitField) (value : Bool) (word : UInt32) : UInt32 :=
  field.set (if value then 1 else 0) word

end BitField

end DebugProbe
