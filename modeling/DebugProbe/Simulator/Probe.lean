import DebugProbe.Checksum
import DebugProbe.Command.Basic
import DebugProbe.Simulator.Target
import DebugProbe.Transport.Basic

/-!
# A simulated probe

A probe that reads command frames as firmware does and answers them, with a simulated target behind
it and a bootloader of its own. Answers wait in a queue until they are read.
Specification: `SPEC_FULL.md` §10.
-/

namespace DebugProbe

/-- The state of a simulated probe. -/
structure Simulator where
  packetSize : Nat := 64
  /-- The first byte of the capability flags. -/
  capabilities : UInt8 := 0x03
  protocolVersion : String := "2.1.0"
  /-- Nothing is answered at all. -/
  silent : Bool := false
  /-- Number of connect commands still to be refused. -/
  connectFailures : Nat := 0
  /-- The next answer gets a wrong command code. -/
  corruptNext : Bool := false
  target : Target := {}
  /-- The clock last set, in hertz. -/
  clock : Option UInt32 := none
  /-- The port mode in use. -/
  port : Option UInt8 := none
  /-- Whether the bootloader runs. -/
  bootloader : Bool := false
  bootloaderChunkSize : UInt16 := 32
  /-- The bytes that the bootloader received. -/
  image : Array UInt8 := #[]
  /-- A checksum to report in place of the true one. -/
  reportedChecksum : Option UInt32 := none
  reboots : Nat := 0
  /-- Answers that were not read yet, oldest first. -/
  pending : List Bytes := []
  /-- The codes of all frames that arrived, oldest first. -/
  codes : Array UInt8 := #[]

namespace Simulator

/-- A text in answer to an information query. -/
def textAnswer (text : String) : Bytes :=
  let content := text.toUTF8.toList
  UInt8.ofNat (content.length + 1) :: (content ++ [0])

/-- The answer to an information query. -/
def info (simulator : Simulator) (item : UInt8) : Bytes :=
  if item = 0x01 then textAnswer "NXP"
  else if item = 0x02 then textAnswer "MCU-LINK"
  else if item = 0x03 then textAnswer "ABC123"
  else if item = 0x04 then textAnswer simulator.protocolVersion
  else if item = 0x09 then textAnswer "3.128"
  else if item = 0xF0 then [2, simulator.capabilities, 0]
  else if item = 0xFD then 4 :: Bytes.ofUInt32 4096
  else if item = 0xFE then [1, 4]
  else if item = 0xFF then 2 :: Bytes.ofNumber 2 simulator.packetSize
  else [0]

/-- The port mode that a connect command gets, zero for none. -/
def portMode (capabilities wanted : UInt8) : UInt8 :=
  let swd := capabilities &&& 1 != 0
  let jtag := capabilities &&& 2 != 0
  if wanted = 0 then if swd then 1 else if jtag then 2 else 0
  else if wanted = 1 then if swd then 1 else 0
  else if wanted = 2 then if jtag then 2 else 0
  else 0

/-- Runs accesses until one is not answered OK: the number done, the status byte and the words
read. -/
def accesses : List Transfer → Target → (Nat × UInt8 × List UInt32) × Target
  | [], target => ((0, 0x01, []), target)
  | transfer :: rest, target =>
    match (Target.access transfer).outcome target with
    | (.error code, after) => ((0, code, []), after)
    | (.ok word, after) =>
      let ((done, status, words), last) := accesses rest after
      ((done + 1, status, word.toList ++ words), last)

/-- The access that a request byte describes, with the bytes after it. -/
def readTransfer (request : UInt8) (body : Bytes) : Transfer × Bytes :=
  let port : Port := if request &&& 0x01 = 0 then .debug else .access
  if request &&& 0x02 = 0 then (⟨port, request &&& 0x0C, some (body.uint32At 0)⟩, body.drop 4)
  else (⟨port, request &&& 0x0C, none⟩, body)

/-- The entries of a transfer command. -/
def readTransfers : (count : Nat) → Bytes → List Transfer
  | 0, _ => []
  | count + 1, body =>
    let (transfer, rest) := readTransfer (body.byteAt 0) (body.drop 1)
    transfer :: readTransfers count rest

/-- The accesses of a block command. -/
def readBlock (request : UInt8) : (count : Nat) → Bytes → List Transfer
  | 0, _ => []
  | count + 1, body =>
    let (transfer, rest) := readTransfer request body
    transfer :: readBlock request count rest

/-- Number of bytes that a JTAG command asks to capture. -/
def captureSize : (count : Nat) → Bytes → Nat
  | 0, _ => 0
  | count + 1, body =>
    let header := body.byteAt 0
    let cycles := if header &&& 0x3F = 0 then 64 else (header &&& 0x3F).toNat
    let size := Bytes.sizeOfBits cycles
    (if header &&& 0x80 = 0 then 0 else size) + captureSize count (body.drop (1 + size))

/-- Answers a command; only an aborted transfer has no answer. -/
def respond (simulator : Simulator) (code : UInt8) (body : Bytes) : Option Bytes × Simulator :=
  let answer (payload : Bytes) (after : Simulator) : Option Bytes × Simulator :=
    (some (code :: payload), after)
  if code = 0x00 then answer (simulator.info (body.byteAt 0)) simulator
  else if code = 0x01 ∨ code = 0x04 ∨ code = 0x13 ∨ code = 0x15 then answer [0] simulator
  else if code = 0x02 then
    let mode := if simulator.connectFailures = 0 then
      portMode simulator.capabilities (body.byteAt 0) else 0
    answer [mode] { simulator with
      connectFailures := simulator.connectFailures - 1
      port := if mode = 0 then none else some mode }
  else if code = 0x03 then answer [0] { simulator with port := none }
  else if code = 0x05 then
    let ((done, status, words), target) :=
      accesses (readTransfers (body.byteAt 1).toNat (body.drop 2)) simulator.target
    answer (UInt8.ofNat done :: status :: Bytes.ofWords words) { simulator with target }
  else if code = 0x06 then
    let ((done, status, words), target) :=
      accesses (readBlock (body.byteAt 3) (body.uint16At 1).toNat (body.drop 4)) simulator.target
    answer (Bytes.ofNumber 2 done ++ status :: Bytes.ofWords words) { simulator with target }
  else if code = 0x07 then (none, simulator)
  else if code = 0x08 then
    answer [0] { simulator with target := simulator.target.writeAbort (body.uint32At 1) }
  else if code = 0x0A then answer [0, 1] simulator
  else if code = 0x10 then answer [body.byteAt 0 ||| ~~~(body.byteAt 1)] simulator
  else if code = 0x11 then answer [0] { simulator with clock := some (body.uint32At 0) }
  else if code = 0x12 then answer [0] simulator
  else if code = 0x14 then
    answer (0 :: List.replicate (captureSize (body.byteAt 0).toNat (body.drop 1)) 0) simulator
  else if code = 0x80 then answer [0] { simulator with bootloader := true }
  else if code = 0x81 then
    if simulator.bootloader then
      answer ([0, 1] ++ Bytes.ofUInt16 simulator.bootloaderChunkSize ++ Bytes.ofUInt32 0x10000)
        simulator
    else answer [0xFF] simulator
  else if code = 0x82 then
    let offset := body.uint32At 0
    if simulator.bootloader && offset.toNat == simulator.image.size then
      let data := (body.drop 5).take (body.byteAt 4).toNat
      answer (0 :: Bytes.ofUInt32 offset) { simulator with image := simulator.image ++ data }
    else answer (0xFF :: Bytes.ofUInt32 offset) simulator
  else if code = 0x83 then
    let crc := simulator.reportedChecksum.getD
      (Checksum.crc32 (simulator.image.toList.take (body.uint32At 0).toNat))
    answer (0 :: Bytes.ofUInt32 crc) simulator
  else if code = 0x84 then
    answer [0] { simulator with reboots := simulator.reboots + 1, bootloader := false }
  else (some [0xFF], simulator)

/-- Takes a frame in and queues the answer to it. -/
def receive (frame : Bytes) (simulator : Simulator) : Simulator :=
  let code := frame.byteAt 0
  let seen := { simulator with codes := simulator.codes.push code }
  if seen.silent then seen
  else
    match seen.respond code (frame.drop 1) with
    | (none, after) => after
    | (some answer, after) =>
      if after.corruptNext then
        { after with
          corruptNext := false
          pending := after.pending ++ [answer.set 0 (answer.byteAt 0 ^^^ 0x40)] }
      else { after with pending := after.pending ++ [answer] }

instance : Transport Simulator where
  write frame := Action.update (receive frame)
  read := Action.ofFun fun simulator ↦
    match simulator.pending with
    | [] => (.error .timeout, simulator)
    | answer :: rest => (.ok answer, { simulator with pending := rest })
  drain simulator := { simulator with pending := [] }
  packetSize := Simulator.packetSize
  setPacketSize size simulator := { simulator with packetSize := size }

end Simulator

end DebugProbe
