import DebugProbe.Bytes
import DebugProbe.Text.Description

/-!
# Raw line sequences

Two commands clock raw bits out. One drives the data line with up to 256 bits; the other runs up to
255 JTAG sequences of 1 to 64 cycles, each at a fixed mode level, and may capture what comes back.
A JTAG chain is described by the instruction register length of each of its members. The types
below hold only what the commands can carry.
Specification: `SPEC_FULL.md` §§4.1/4.2.
-/

namespace DebugProbe

/-- Bits for the data line, in whole bytes, least significant bit first. -/
structure LineSequence where
  /-- Number of bits, zero standing for 256. -/
  bitCount : UInt8
  data : Bytes
  /-- There are just as many bytes as the bits need. -/
  length_data : data.length = if bitCount = 0 then 32 else Bytes.sizeOfBits bitCount.toNat
  deriving DecidableEq, Repr

namespace LineSequence

/-- The most bytes a sequence can have. -/
def maxBytes : Nat := 32

/-- Bytes needed for a bit count, zero standing for 256 bits. -/
def byteCount (bitCount : UInt8) : Nat :=
  if bitCount = 0 then maxBytes else Bytes.sizeOfBits bitCount.toNat

/-- The sequence of the first bits of `data`, unless `data` is too long for the command or too short
for the bit count. -/
def ofBytes? (data : Bytes) (bitCount : UInt8) : Option LineSequence :=
  if h : data.length ≤ maxBytes ∧ byteCount bitCount ≤ data.length then
    some ⟨bitCount, data.take (byteCount bitCount), by
      rw [List.length_take, Nat.min_eq_left h.2]
      rfl⟩
  else none

/-- Number of bits that are clocked out. -/
def bitLength (sequence : LineSequence) : Nat :=
  if sequence.bitCount = 0 then 256 else sequence.bitCount.toNat

/-- What follows the command code: the bit count and the bytes. -/
def payload (sequence : LineSequence) : Bytes := sequence.bitCount :: sequence.data

/-- The sequence as shown in messages, its data filled up to the full size. -/
def description (sequence : LineSequence) : String :=
  Description.record "SequenceRequest"
    [("bit_count", Description.nat sequence.bitCount.toNat),
      ("data", Description.bytes
        (sequence.data ++ List.replicate (maxBytes - sequence.data.length) 0))]

end LineSequence

/-- Cycles of a JTAG chain at one mode level. -/
structure JtagSequence where
  /-- The data bits to shift in, the first one clocked first. -/
  tdi : List Bool
  /-- The mode level. -/
  tms : Bool
  /-- Whether the data shifted out is wanted. -/
  capture : Bool
  /-- The command has room for 1 to 64 cycles. -/
  length_tdi : 1 ≤ tdi.length ∧ tdi.length ≤ 64
  deriving DecidableEq, Repr

namespace JtagSequence

/-- The sequence with the given bits, unless there are none or more than 64. -/
def ofBits? (tdi : List Bool) (tms capture : Bool) : Option JtagSequence :=
  if h : 1 ≤ tdi.length ∧ tdi.length ≤ 64 then some ⟨tdi, tms, capture, h⟩ else none

/-- Number of bytes that hold the bits. -/
def byteCount (sequence : JtagSequence) : Nat := Bytes.sizeOfBits sequence.tdi.length

/-- The header byte: cycles (64 as zero), mode level and capture flag. -/
def header (sequence : JtagSequence) : UInt8 :=
  UInt8.ofNat (sequence.tdi.length % 64 + (if sequence.tms then 64 else 0)
    + (if sequence.capture then 128 else 0))

/-- The header and the packed bits. -/
def payload (sequence : JtagSequence) : Bytes := sequence.header :: Bytes.ofBits sequence.tdi

/-- The sequence as shown in messages, its data filled up to eight bytes. -/
def description (sequence : JtagSequence) : String :=
  let data := Bytes.ofBits sequence.tdi
  Description.record "Sequence"
    [("tck_cycles", Description.nat sequence.tdi.length),
      ("tms", Description.bool sequence.tms),
      ("tdo_capture", Description.bool sequence.capture),
      ("data", Description.bytes (data ++ List.replicate (8 - data.length) 0))]

end JtagSequence

/-- A list of JTAG sequences that one command can carry. -/
structure JtagScan where
  sequences : List JtagSequence
  /-- The count travels in one byte. -/
  length_sequences : 1 ≤ sequences.length ∧ sequences.length ≤ 255
  deriving DecidableEq, Repr

namespace JtagScan

/-- The scan of some sequences, unless there are none or more than 255. -/
def ofSequences? (sequences : List JtagSequence) : Option JtagScan :=
  if h : 1 ≤ sequences.length ∧ sequences.length ≤ 255 then some ⟨sequences, h⟩ else none

/-- Number of bytes that the probe sends back. -/
def captureSize (scan : JtagScan) : Nat :=
  ((scan.sequences.filter (·.capture)).map (·.byteCount)).foldr (· + ·) 0

/-- What follows the command code: the count and the sequences. -/
def payload (scan : JtagScan) : Bytes :=
  UInt8.ofNat scan.sequences.length :: scan.sequences.flatMap (·.payload)

/-- The scan as shown in messages. -/
def description (scan : JtagScan) : String :=
  Description.record "SequenceRequest"
    [("sequences", Description.list (scan.sequences.map (·.description)))]

end JtagScan

/-- Instruction register lengths of the members of a JTAG chain, from the data input on. -/
structure JtagChain where
  irLengths : Bytes
  /-- The count travels in one byte. -/
  length_irLengths : 1 ≤ irLengths.length ∧ irLengths.length ≤ 255
  deriving DecidableEq, Repr

namespace JtagChain

/-- The chain with the given lengths, unless there are none or more than 255. -/
def ofLengths? (irLengths : Bytes) : Option JtagChain :=
  if h : 1 ≤ irLengths.length ∧ irLengths.length ≤ 255 then some ⟨irLengths, h⟩ else none

/-- What follows the command code: the count and the lengths. -/
def payload (chain : JtagChain) : Bytes :=
  UInt8.ofNat chain.irLengths.length :: chain.irLengths

/-- The chain as shown in messages. -/
def description (chain : JtagChain) : String :=
  Description.record "ConfigureRequest" [("ir_lengths", Description.bytes chain.irLengths)]

end JtagChain

end DebugProbe
