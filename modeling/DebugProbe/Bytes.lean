/-!
# Byte strings and little-endian numbers

Frames, memory and images are lists of bytes. A number occupies a fixed count of bytes, its least
significant byte first; `Bytes.number` reads such bytes back and ignores nothing, so
`number (ofNumber n k) = k` for every `k` that fits in `n` bytes.
Specification: `SPEC_FULL.md` §4.1.
-/

namespace DebugProbe

/-- A sequence of bytes, in the order in which they travel. -/
abbrev Bytes := List UInt8

namespace Bytes

/-- The low `count` bytes of `value`, least significant first. -/
def ofNumber : (count : Nat) → (value : Nat) → Bytes
  | 0, _ => []
  | count + 1, value => UInt8.ofNat value :: ofNumber count (value / 256)

/-- How many numbers fit into a count of bytes. -/
def capacity : (count : Nat) → Nat
  | 0 => 1
  | count + 1 => 256 * capacity count

/-- The number whose bytes, least significant first, are given. -/
def number : Bytes → Nat
  | [] => 0
  | byte :: rest => byte.toNat + 256 * number rest

/-- The two bytes of a 16-bit word. -/
def ofUInt16 (word : UInt16) : Bytes := ofNumber 2 word.toNat

/-- The four bytes of a 32-bit word. -/
def ofUInt32 (word : UInt32) : Bytes := ofNumber 4 word.toNat

/-- The eight bytes of a 64-bit word. -/
def ofUInt64 (word : UInt64) : Bytes := ofNumber 8 word.toNat

/-- The byte at a position, zero past the end. -/
def byteAt (bytes : Bytes) (position : Nat) : UInt8 := bytes.getD position 0

/-- The 16-bit word that starts at a position; missing bytes count as zero. -/
def uint16At (bytes : Bytes) (position : Nat) : UInt16 :=
  UInt16.ofNat (number ((bytes.drop position).take 2))

/-- The 32-bit word that starts at a position; missing bytes count as zero. -/
def uint32At (bytes : Bytes) (position : Nat) : UInt32 :=
  UInt32.ofNat (number ((bytes.drop position).take 4))

/-- The bytes of a list of 32-bit words, one word after the other. -/
def ofWords (words : List UInt32) : Bytes := words.flatMap ofUInt32

/-- The first `count` 32-bit words. -/
def words : (count : Nat) → Bytes → List UInt32
  | 0, _ => []
  | count + 1, bytes => uint32At bytes 0 :: words count (bytes.drop 4)

/-- Number of bytes needed for a number of bits. -/
def sizeOfBits (bits : Nat) : Nat := (bits + 7) / 8

/-- Bits packed into bytes, the first bit in the least significant place of the first byte. -/
def ofBits : List Bool → Bytes
  | [] => []
  | bit :: rest =>
    let group := (bit :: rest).take 8
    UInt8.ofNat (group.foldr (fun b value ↦ (if b then 1 else 0) + 2 * value) 0) ::
      ofBits (rest.drop 7)
termination_by bits => bits.length

/-- The bits of the bytes, least significant first. -/
def bits (bytes : Bytes) : List Bool :=
  bytes.flatMap fun byte ↦ (List.range 8).map fun place ↦ byte.toNat.testBit place

@[simp] theorem length_ofNumber (count value : Nat) : (ofNumber count value).length = count := by
  induction count generalizing value with
  | zero => rfl
  | succ count ih => simp [ofNumber, ih]

@[simp] theorem length_ofUInt16 (word : UInt16) : (ofUInt16 word).length = 2 :=
  length_ofNumber 2 _

@[simp] theorem length_ofUInt32 (word : UInt32) : (ofUInt32 word).length = 4 :=
  length_ofNumber 4 _

/-- The bytes of a number hold its value up to their capacity. -/
theorem number_ofNumber (count value : Nat) :
    number (ofNumber count value) = value % capacity count := by
  induction count generalizing value with
  | zero => simp [ofNumber, number, capacity, Nat.mod_one]
  | succ count ih =>
    have step : value % (256 * capacity count) =
        value % 256 + 256 * (value / 256 % capacity count) :=
      Nat.mod_mul
    simp [ofNumber, number, capacity, ih, step]

/-- Bytes read as a number are the bytes of the number. -/
theorem ofNumber_number (bytes : Bytes) : ofNumber bytes.length (number bytes) = bytes := by
  induction bytes with
  | nil => rfl
  | cons byte rest ih =>
    have small := byte.toNat_lt
    have low : UInt8.ofNat (byte.toNat + 256 * number rest) = byte := by
      apply UInt8.toNat_inj.mp
      rw [UInt8.toNat_ofNat']
      omega
    have high : (byte.toNat + 256 * number rest) / 256 = number rest := by omega
    rw [List.length_cons, number, ofNumber, low, high, ih]

/-- A number of bytes is less than their capacity. -/
theorem number_lt_capacity (bytes : Bytes) : number bytes < capacity bytes.length := by
  induction bytes with
  | nil => exact Nat.zero_lt_one
  | cons byte rest ih =>
    have small := byte.toNat_lt
    rw [List.length_cons, number, capacity]
    omega

/-- Four bytes written from a word read back as the word, whatever follows. -/
theorem uint32At_ofUInt32_append (word : UInt32) (rest : Bytes) :
    uint32At (ofUInt32 word ++ rest) 0 = word := by
  have bound := word.toNat_lt
  simp only [uint32At, List.drop_zero]
  rw [List.take_append_of_le_length (by simp), List.take_of_length_le (by simp), ofUInt32,
    number_ofNumber, Nat.mod_eq_of_lt (by simpa [capacity] using bound)]
  simp

/-- Two bytes written from a word read back as the word, whatever follows. -/
theorem uint16At_ofUInt16_append (word : UInt16) (rest : Bytes) :
    uint16At (ofUInt16 word ++ rest) 0 = word := by
  have bound := word.toNat_lt
  simp only [uint16At, List.drop_zero]
  rw [List.take_append_of_le_length (by simp), List.take_of_length_le (by simp), ofUInt16,
    number_ofNumber, Nat.mod_eq_of_lt (by simpa [capacity] using bound)]
  simp

end Bytes

end DebugProbe
