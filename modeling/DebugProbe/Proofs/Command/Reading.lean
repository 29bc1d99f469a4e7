import DebugProbe.Proofs.Line.Levels
import DebugProbe.Proofs.Line.Packing
import DebugProbe.Proofs.Probe.Frames

/-!
# Requests as firmware reads them

Five commands vary in length, and nothing but their own counts tells firmware where they end. The
readers here take such a frame apart from the front, byte by byte. They read back what the request
was built from and stop at the last byte of the frame, whatever comes after it.
-/

namespace DebugProbe

/-- Takes a value off the front of the bytes that are left, unless they end too soon. -/
abbrev Reader (α : Type) := StateT Bytes Option α

/-- Cycles of a JTAG port, one for each bit shifted in. -/
structure JtagCycles where
  tms : Bool
  /-- Whether the bits shifted out are sent back. -/
  capture : Bool
  tdi : List Bool
  deriving DecidableEq, Repr

/-- What firmware is told to do by a command of varying length. -/
inductive Reading where
  /-- Put accesses to a debug port; the address of each has only bits 3 and 2. -/
  | transfer (dapIndex : UInt8) (accesses : List Transfer)
  /-- Drive the data line to some levels. -/
  | lineSequence (levels : List Bool)
  /-- Clock a JTAG port. -/
  | jtagScan (cycles : List JtagCycles)
  /-- Take a JTAG chain to have members with some instruction register lengths. -/
  | jtagChain (irLengths : Bytes)
  /-- Place a piece of an image. -/
  | writeChunk (offset : UInt32) (data : Bytes)
  deriving DecidableEq, Repr

namespace Reader

variable {α : Type}

/-- One byte. -/
def byte : Reader UInt8 := fun left ↦
  match left with
  | [] => none
  | first :: rest => some (first, rest)

/-- A number of bytes. -/
def bytes (count : Nat) : Reader Bytes := fun left ↦
  if count ≤ left.length then some (left.take count, left.drop count) else none

/-- A word of four bytes, least significant byte first. -/
def word : Reader UInt32 := return (← bytes 4).uint32At 0

/-- A number of items, one after the other. -/
def items (item : Reader α) : (count : Nat) → Reader (List α)
  | 0 => return []
  | count + 1 => do
    let first ← item
    return first :: (← items item count)

/-- An access: bit 1 of the request byte tells whether a value follows. -/
def access : Reader Transfer := do
  let request ← byte
  let port : Port := if request &&& 0x01 = 0 then .debug else .access
  if request &&& 0x02 = 0 then return ⟨port, request &&& 0x0C, some (← word)⟩
  else return ⟨port, request &&& 0x0C, none⟩

/-- Index of the debug port, count and accesses. -/
def transfer : Reader Reading := do
  let dapIndex ← byte
  let count ← byte
  return .transfer dapIndex (← items access count.toNat)

/-- Bit count, with zero for 256, and the bits in whole bytes. -/
def lineSequence : Reader Reading := do
  let header ← byte
  let count := if header = 0 then 256 else header.toNat
  return .lineSequence ((Bytes.bits (← bytes (Bytes.sizeOfBits count))).take count)

/-- Cycles: the low six bits of the header count them, with zero for 64; bit 6 is the mode level and
bit 7 asks for a capture. -/
def cycles : Reader JtagCycles := do
  let header ← byte
  let count := if header.toNat % 64 = 0 then 64 else header.toNat % 64
  let tdi ← bytes (Bytes.sizeOfBits count)
  return ⟨header.toNat.testBit 6, header.toNat.testBit 7, (Bytes.bits tdi).take count⟩

/-- Count and cycles. -/
def jtagScan : Reader Reading := do
  let count ← byte
  return .jtagScan (← items cycles count.toNat)

/-- Count and lengths. -/
def jtagChain : Reader Reading := do
  let count ← byte
  return .jtagChain (← items byte count.toNat)

/-- Offset, length and data. -/
def writeChunk : Reader Reading := do
  let offset ← word
  let count ← byte
  return .writeChunk offset (← bytes count.toNat)

/-- A frame of varying length; its first byte is the command. -/
def frame : Reader Reading := do
  let code ← byte
  if code = 0x05 then transfer
  else if code = 0x12 then lineSequence
  else if code = 0x14 then jtagScan
  else if code = 0x15 then jtagChain
  else if code = 0x82 then writeChunk
  else failure

end Reader

namespace JtagSequence

/-- The cycles that a sequence clocks. -/
def cycles (sequence : JtagSequence) : JtagCycles :=
  ⟨sequence.tms, sequence.capture, sequence.tdi⟩

/-- The header holds the cycles in its low six bits and the flags above them. -/
theorem toNat_header (sequence : JtagSequence) : sequence.header.toNat =
    sequence.tdi.length % 64 + (if sequence.tms then 64 else 0)
      + (if sequence.capture then 128 else 0) := by
  have cycles : sequence.tdi.length % 64 < 64 := Nat.mod_lt _ (by decide)
  apply UInt8.toNat_ofNat_of_lt'
  show _ < 256
  split <;> split <;> omega

/-- Sixty-four cycles are the only count that leaves the low bits zero. -/
theorem header_cycles (sequence : JtagSequence) :
    (if sequence.header.toNat % 64 = 0 then 64 else sequence.header.toNat % 64) =
      sequence.tdi.length := by
  obtain ⟨positive, few⟩ := sequence.length_tdi
  have low : sequence.header.toNat % 64 = sequence.tdi.length % 64 := by
    rw [toNat_header]
    split <;> split <;> omega
  rw [low]
  split <;> omega

theorem header_tms (sequence : JtagSequence) :
    sequence.header.toNat.testBit 6 = sequence.tms := by
  have cycles : sequence.tdi.length % 64 < 64 := Nat.mod_lt _ (by decide)
  rw [Nat.testBit_eq_decide_div_mod_eq, toNat_header]
  cases sequence.tms <;> cases sequence.capture <;> simp <;> omega

theorem header_capture (sequence : JtagSequence) :
    sequence.header.toNat.testBit 7 = sequence.capture := by
  have cycles : sequence.tdi.length % 64 < 64 := Nat.mod_lt _ (by decide)
  rw [Nat.testBit_eq_decide_div_mod_eq, toNat_header]
  cases sequence.tms <;> cases sequence.capture <;> simp <;> omega

end JtagSequence

/-! ## What readers take -/

namespace Reader

variable {α : Type}

/-- The reader takes just these bytes, whatever follows, and makes this value of them. -/
def Takes (reader : Reader α) (taken : Bytes) (value : α) : Prop :=
  ∀ rest, reader (taken ++ rest) = some (value, rest)

namespace Takes

variable {β : Type} {reader : Reader α} {taken later : Bytes} {value : α}

protected theorem pure (value : α) : (pure value : Reader α).Takes [] value := fun _ ↦ rfl

protected theorem bind {next : α → Reader β} {result : β} (first : reader.Takes taken value)
    (second : (next value).Takes later result) :
    (reader >>= next).Takes (taken ++ later) result := by
  intro rest
  show (reader (taken ++ later ++ rest)).bind _ = _
  rw [List.append_assoc, first]
  exact second rest

/-- A reader that ends with a change of what it read takes no more bytes for that. -/
protected theorem map (change : α → β) (first : reader.Takes taken value) :
    (do return change (← reader) : Reader β).Takes taken (change value) := by
  have whole : (do return change (← reader) : Reader β).Takes (taken ++ []) (change value) :=
    first.bind (.pure _)
  rw [List.append_nil] at whole
  exact whole

theorem byte (first : UInt8) : Reader.byte.Takes [first] first := fun _ ↦ rfl

theorem bytes (data : Bytes) : (Reader.bytes data.length).Takes data data := by
  intro rest
  have room : data.length ≤ (data ++ rest).length := by rw [List.length_append]; omega
  unfold Reader.bytes
  rw [if_pos room, List.take_left, List.drop_left]

theorem word (value : UInt32) : Reader.word.Takes (Bytes.ofUInt32 value) value := by
  have read := (bytes (Bytes.ofUInt32 value)).map fun data ↦ data.uint32At 0
  have back := Bytes.uint32At_ofUInt32_append value []
  rw [List.append_nil] at back
  rw [Bytes.length_ofUInt32, back] at read
  exact read

/-- Items are taken one by one, each from the bytes that were written for it. -/
theorem items {item : Reader α} {write : β → Bytes} (read : β → α) {sources : List β}
    (each : ∀ source ∈ sources, item.Takes (write source) (read source)) :
    (items item sources.length).Takes (sources.flatMap write) (sources.map read) := by
  induction sources with
  | nil => exact .pure []
  | cons source sources ih =>
    have others := ih fun source member ↦ each source (List.mem_cons_of_mem _ member)
    exact (each source List.mem_cons_self).bind (others.map _)

/-- Four bits of the request byte tell an access, and a write has its value behind. -/
theorem access (transfer : Transfer) :
    Reader.access.Takes transfer.payload transfer.onWire := by
  rcases transfer with ⟨port, address, value⟩
  have side : (if (if port = .debug then 0 else 1 : UInt8) = 0 then Port.debug else .access)
      = port := by
    cases port <;> rfl
  refine (byte _).bind ?_
  rw [Transfer.requestByte_address, Transfer.requestByte_port, Transfer.requestByte_direction, side]
  cases value with
  | none => exact .pure _
  | some value => exact (word value).map _

/-- A sequence is clocked as it was asked for, its cycles counted by its header. -/
theorem cycles (sequence : JtagSequence) :
    Reader.cycles.Takes sequence.payload sequence.cycles := by
  have data := (bytes (Bytes.ofBits sequence.tdi)).map fun tdi ↦
    (⟨sequence.tms, sequence.capture, (Bytes.bits tdi).take sequence.tdi.length⟩ : JtagCycles)
  rw [Bytes.length_ofBits, Bytes.bits_ofBits] at data
  refine (byte _).bind ?_
  rw [JtagSequence.header_cycles, JtagSequence.header_tms, JtagSequence.header_capture]
  exact data

theorem transfer {request : TransferRequest}
    (few : request.transfers.length ≤ TransferRequest.maxCount) :
    Reader.transfer.Takes request.payload
      (.transfer request.dapIndex (request.transfers.map Transfer.onWire)) := by
  have count : (UInt8.ofNat request.transfers.length).toNat = request.transfers.length :=
    UInt8.toNat_ofNat_of_lt' (Nat.lt_succ_of_le few)
  refine (byte _).bind ((byte _).bind ?_)
  rw [count]
  exact (items Transfer.onWire fun transfer _ ↦ access transfer).map _

theorem lineSequence (sequence : LineSequence) :
    Reader.lineSequence.Takes sequence.payload (.lineSequence sequence.levels) := by
  have count : (if sequence.bitCount = 0 then 256 else sequence.bitCount.toNat) =
      sequence.bitLength := rfl
  have size : Bytes.sizeOfBits sequence.bitLength = sequence.data.length := by
    rw [sequence.length_data, LineSequence.bitLength]
    split <;> rfl
  refine (byte _).bind ?_
  simp only [count, size]
  exact (bytes sequence.data).map _

theorem jtagScan (scan : JtagScan) :
    Reader.jtagScan.Takes scan.payload
      (.jtagScan (scan.sequences.map JtagSequence.cycles)) := by
  have count : (UInt8.ofNat scan.sequences.length).toNat = scan.sequences.length :=
    UInt8.toNat_ofNat_of_lt' (Nat.lt_succ_of_le scan.length_sequences.2)
  refine (byte _).bind ?_
  rw [count]
  exact (items _ fun sequence _ ↦ cycles sequence).map _

theorem jtagChain (chain : JtagChain) :
    Reader.jtagChain.Takes chain.payload (.jtagChain chain.irLengths) := by
  have count : (UInt8.ofNat chain.irLengths.length).toNat = chain.irLengths.length :=
    UInt8.toNat_ofNat_of_lt' (Nat.lt_succ_of_le chain.length_irLengths.2)
  have lengths : (Reader.items Reader.byte chain.irLengths.length).Takes chain.irLengths
      chain.irLengths := by
    have read := items id fun length (_ : length ∈ chain.irLengths) ↦ byte length
    rw [List.map_id, List.flatMap_singleton'] at read
    exact read
  refine (byte _).bind ?_
  rw [count]
  exact lengths.map _

theorem writeChunk {chunk : FirmwareChunk} (few : chunk.data.length ≤ FirmwareChunk.maxData) :
    Reader.writeChunk.Takes chunk.payload (.writeChunk chunk.offset chunk.data) := by
  have count : (UInt8.ofNat chunk.data.length).toNat = chunk.data.length :=
    UInt8.toNat_ofNat_of_lt' (Nat.lt_succ_of_le few)
  refine (word _).bind ((byte _).bind ?_)
  rw [count]
  exact (bytes chunk.data).map _

end Takes

end Reader

namespace Request

/-- What the parameters that a request is built from tell firmware to do. -/
inductive Built : Request → Reading → Prop where
  | transfer (dapIndex : UInt8) (transfers : List Transfer) :
      Built (.transfer ⟨dapIndex, transfers⟩) (.transfer dapIndex (transfers.map Transfer.onWire))
  | lineSequence {data : Bytes} {bitCount : UInt8} {sequence : LineSequence}
      (accepted : LineSequence.ofBytes? data bitCount = some sequence) :
      Built (.lineSequence sequence)
        (.lineSequence
          ((Bytes.bits data).take (if bitCount = 0 then 256 else bitCount.toNat)))
  | jtagScan {cycles : List JtagCycles} {sequences : List JtagSequence} {scan : JtagScan}
      (each : cycles.mapM (fun c ↦ JtagSequence.ofBits? c.tdi c.tms c.capture) = some sequences)
      (accepted : JtagScan.ofSequences? sequences = some scan) :
      Built (.jtagScan scan) (.jtagScan cycles)
  | jtagChain {irLengths : Bytes} {chain : JtagChain}
      (accepted : JtagChain.ofLengths? irLengths = some chain) :
      Built (.jtagConfigure chain) (.jtagChain irLengths)
  | writeChunk (offset : UInt32) (data : Bytes) :
      Built (.writeChunk ⟨offset, data⟩) (.writeChunk offset data)

end Request

/-- A sequence drives the first bits of the data that it was built from. -/
theorem LineSequence.levels_ofBytes? {data : Bytes} {bitCount : UInt8} {sequence : LineSequence}
    (accepted : ofBytes? data bitCount = some sequence) :
    sequence.levels =
      (Bytes.bits data).take (if bitCount = 0 then 256 else bitCount.toNat) := by
  unfold ofBytes? at accepted
  split at accepted
  · cases accepted
    have whole : (if bitCount = 0 then 256 else bitCount.toNat) ≤ 8 * byteCount bitCount := by
      unfold byteCount Bytes.sizeOfBits maxBytes
      split <;> omega
    show (Bytes.bits (data.take (byteCount bitCount))).take
      (if bitCount = 0 then 256 else bitCount.toNat) = _
    rw [Bytes.bits_take, List.take_take, Nat.min_eq_left whole]
  · nomatch accepted

theorem JtagSequence.cycles_ofBits? {cycles : JtagCycles} {sequence : JtagSequence}
    (accepted : ofBits? cycles.tdi cycles.tms cycles.capture = some sequence) :
    sequence.cycles = cycles := by
  unfold ofBits? at accepted
  split at accepted
  · cases accepted
    rfl
  · nomatch accepted

/-- Sequences built one by one stand for the cycles that they were built from. -/
theorem JtagSequence.cycles_mapM {cycles : List JtagCycles} {sequences : List JtagSequence}
    (each : cycles.mapM (fun c ↦ ofBits? c.tdi c.tms c.capture) = some sequences) :
    sequences.map JtagSequence.cycles = cycles := by
  induction cycles generalizing sequences with
  | nil =>
    cases each
    rfl
  | cons first others ih =>
    rw [List.mapM_cons] at each
    obtain ⟨sequence, accepted, rest⟩ := Option.bind_eq_some_iff.mp each
    obtain ⟨tail, built, whole⟩ := Option.bind_eq_some_iff.mp rest
    cases whole
    rw [List.map_cons, cycles_ofBits? accepted, ih built]

namespace Request

variable {request : Request} {reading : Reading} {packetSize : Nat} {frame : Bytes}

/-- Firmware reads back every request of varying length: from its frame, whatever follows, it takes
just the bytes of the frame and makes of them what the request was built from. -/
theorem read_of_encode (built : request.Built reading)
    (sent : request.encode packetSize = .ok frame) (rest : Bytes) :
    Reader.frame (frame ++ rest) = some (reading, rest) := by
  obtain ⟨inRange, -, rfl⟩ := encode_eq_ok_iff.mp sent
  revert rest
  show Reader.frame.Takes request.frame reading
  refine (Reader.Takes.byte _).bind ?_
  cases built with
  | transfer dapIndex transfers =>
    refine Reader.Takes.transfer (Nat.le_of_not_lt fun many ↦ ?_)
    exact Option.some_ne_none _ ((if_pos many).symm.trans inRange)
  | lineSequence accepted =>
    rw [← LineSequence.levels_ofBytes? accepted]
    exact Reader.Takes.lineSequence _
  | jtagScan each accepted =>
    unfold JtagScan.ofSequences? at accepted
    split at accepted
    · cases accepted
      have read := Reader.Takes.jtagScan ⟨_, ‹_›⟩
      rw [JtagSequence.cycles_mapM each] at read
      exact read
    · cases accepted
  | jtagChain accepted =>
    unfold JtagChain.ofLengths? at accepted
    split at accepted
    · cases accepted
      exact Reader.Takes.jtagChain _
    · cases accepted
  | writeChunk offset data =>
    refine Reader.Takes.writeChunk (Nat.le_of_not_lt fun many ↦ ?_)
    exact Option.some_ne_none _ ((if_pos many).symm.trans inRange)

/-- A write with its value and a read without one, back from the frame and from nothing after it. -/
theorem read_of_mixed_transfer :
    (transfer ⟨0, [⟨.debug, 0x8, some 0x010000F0⟩, ⟨.access, 0xC, none⟩]⟩).encode 64 =
        .ok [0x05, 0x00, 0x02, 0x08, 0xF0, 0x00, 0x00, 0x01, 0x0F] ∧
      Reader.frame [0x05, 0x00, 0x02, 0x08, 0xF0, 0x00, 0x00, 0x01, 0x0F, 0x77] =
        some (.transfer 0 [⟨.debug, 0x8, some 0x010000F0⟩, ⟨.access, 0xC, none⟩], [0x77]) := by
  have sent : (transfer ⟨0, [⟨.debug, 0x8, some 0x010000F0⟩, ⟨.access, 0xC, none⟩]⟩).encode 64 =
      .ok [0x05, 0x00, 0x02, 0x08, 0xF0, 0x00, 0x00, 0x01, 0x0F] := rfl
  exact ⟨sent, read_of_encode (.transfer 0 _) sent [0x77]⟩

end Request

end DebugProbe
