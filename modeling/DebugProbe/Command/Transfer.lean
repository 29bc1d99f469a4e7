import DebugProbe.Command.Framing
import DebugProbe.Register.Address
import DebugProbe.Text.Description

/-!
# Register transfers

One command reads and writes several registers, another repeats the access to one register. The
probe stops at the first transfer that does not complete; its answer tells how many completed, how
the last one was acknowledged and, for each completed read, the word that was read.
Specification: `SPEC_FULL.md` §§4.1/4.3.
-/

namespace DebugProbe

/-- One entry of a transfer command: a write if it has a value, else a read. -/
structure Transfer where
  port : Port
  /-- The register address, of which only bits 3 and 2 are sent. -/
  address : UInt8
  value : Option UInt32
  deriving DecidableEq, Repr

namespace Transfer

/-- Whether the entry reads. -/
def isRead (transfer : Transfer) : Bool := transfer.value.isNone

/-- The byte that describes an access: port, direction and address bits 3 and 2. -/
def requestByte (port : Port) (isRead : Bool) (address : UInt8) : UInt8 :=
  (if port = .access then 0x01 else 0) ||| (if isRead then 0x02 else 0) ||| (address &&& 0x0C)

/-- The entry in a frame: the request byte and, for a write, the value. -/
def payload (transfer : Transfer) : Bytes :=
  requestByte transfer.port transfer.isRead transfer.address ::
    match transfer.value with
    | some value => Bytes.ofUInt32 value
    | none => []

/-- Number of bytes that the entry occupies. -/
def size (transfer : Transfer) : Nat := if transfer.isRead then 1 else 5

@[simp] theorem length_payload (transfer : Transfer) : transfer.payload.length = transfer.size := by
  cases transfer with
  | mk port address value => cases value <;> simp [payload, size, isRead]

end Transfer

/-- How the target answered an access. -/
inductive Acknowledge where
  | ok
  | wait
  | fault
  | noAck
  deriving DecidableEq, Repr

/-- The status byte of a transfer answer. -/
structure TransferStatus where
  acknowledge : Acknowledge
  /-- A parity or protocol error on the line. -/
  protocolError : Bool
  /-- A read did not return the value it was to match. -/
  valueMismatch : Bool
  deriving DecidableEq, Repr

namespace TransferStatus

/-- The low three bits hold the acknowledge, the next two the flags. -/
def ofByte (byte : UInt8) : TransferStatus where
  acknowledge :=
    if byte &&& 0x07 = 1 then .ok
    else if byte &&& 0x07 = 2 then .wait
    else if byte &&& 0x07 = 4 then .fault
    else .noAck
  protocolError := byte &&& 0x08 != 0
  valueMismatch := byte &&& 0x10 != 0

/-- Whether the whole request went through. -/
def isOk (status : TransferStatus) : Bool :=
  status.acknowledge == .ok && !status.protocolError && !status.valueMismatch

end TransferStatus

/-- Several register accesses in one frame. -/
structure TransferRequest where
  /-- Position of the debug port in a JTAG chain. -/
  dapIndex : UInt8
  transfers : List Transfer
  deriving DecidableEq, Repr

/-- The answer to a transfer request. -/
structure TransferReply where
  /-- Number of transfers that completed. -/
  count : Nat
  status : TransferStatus
  /-- One item per completed transfer, a word for each read. -/
  data : List (Option UInt32)
  deriving DecidableEq, Repr

namespace TransferRequest

/-- The count of entries travels in one byte. -/
def maxCount : Nat := 255

/-- Size of the command frame. -/
def requestSize (request : TransferRequest) : Nat :=
  3 + (request.transfers.map (·.size)).foldr (· + ·) 0

/-- Size of the answer if every transfer completes. -/
def replySize (request : TransferRequest) : Nat := 3 + 4 * request.transfers.countP (·.isRead)

/-- What follows the command code: the index, the count and the entries. -/
def payload (request : TransferRequest) : Bytes :=
  request.dapIndex :: UInt8.ofNat request.transfers.length ::
    request.transfers.flatMap (·.payload)

/-- Takes the data of completed transfers out of a payload, from a position on. -/
def readData (payload : Bytes) : (transfers : List Transfer) → (position : Nat) →
    Except FramingError (List (Option UInt32))
  | [], _ => .ok []
  | transfer :: rest, position =>
    if transfer.isRead then do
      requireLength payload (position + 4)
      let data ← readData payload rest (position + 4)
      return some (payload.uint32At position) :: data
    else do
      let data ← readData payload rest position
      return none :: data

/-- Reads the answer: a count that the request allows, the status byte and the words read. -/
def parse (request : TransferRequest) (payload : Bytes) : Except FramingError TransferReply := do
  let count := (payload.byteAt 0).toNat
  if request.transfers.length < count then throw .unexpectedAnswer
  let data ← readData payload (request.transfers.take count) 2
  return ⟨count, .ofByte (payload.byteAt 1), data⟩

end TransferRequest

/-- What a block transfer does with its register. -/
inductive BlockAccess where
  | read (count : UInt16)
  | write (words : List UInt32)
  deriving DecidableEq, Repr

namespace BlockAccess

/-- Whether the block is read. -/
def isRead : BlockAccess → Bool
  | read _ => true
  | write _ => false

/-- The count that the frame announces; longer lists of words announce the largest count. -/
def count : BlockAccess → UInt16
  | read count => count
  | write words => UInt16.ofNat (min words.length 65535)

/-- The words that the frame carries. -/
def words : BlockAccess → List UInt32
  | read _ => []
  | write words => words

end BlockAccess

/-- Repeated access to one register. -/
structure BlockRequest where
  /-- Position of the debug port in a JTAG chain. -/
  dapIndex : UInt8
  port : Port
  /-- The register address, of which only bits 3 and 2 are sent. -/
  address : UInt8
  access : BlockAccess
  deriving DecidableEq, Repr

/-- The answer to a block request. -/
structure BlockReply where
  /-- Number of accesses that completed. -/
  count : Nat
  status : TransferStatus
  /-- The words read, none for a write. -/
  words : List UInt32
  deriving DecidableEq, Repr

namespace BlockRequest

/-- The most words that fit into a packet in either direction. -/
def maxWords (packetSize : Nat) : Nat := min ((packetSize - 5) / 4) 65535

/-- What follows the command code: index, count, request byte and the words of a write. -/
def payload (request : BlockRequest) : Bytes :=
  request.dapIndex :: (Bytes.ofUInt16 request.access.count
    ++ Transfer.requestByte request.port request.access.isRead request.address
      :: Bytes.ofWords request.access.words)

/-- Reads the answer: a count that the request allows, the status byte and the words read. -/
def parse (request : BlockRequest) (payload : Bytes) : Except FramingError BlockReply := do
  let count := (payload.uint16At 0).toNat
  if request.access.count.toNat < count then throw .unexpectedAnswer
  let status := TransferStatus.ofByte (payload.byteAt 2)
  if request.access.isRead then
    requireLength payload (3 + 4 * count)
    return ⟨count, status, Bytes.words count (payload.drop 3)⟩
  else
    return ⟨count, status, []⟩

end BlockRequest

/-- Parameters of both transfer commands. -/
structure TransferSettings where
  /-- Idle cycles after each transfer. -/
  idleCycles : UInt8
  /-- Retries that the probe itself makes after a WAIT. -/
  waitRetry : UInt16
  /-- Retries of a read that is to match a value. -/
  matchRetry : UInt16
  deriving DecidableEq, Repr

namespace TransferSettings

/-- What follows the command code. -/
def payload (settings : TransferSettings) : Bytes :=
  settings.idleCycles :: (Bytes.ofUInt16 settings.waitRetry ++ Bytes.ofUInt16 settings.matchRetry)

/-- The settings as shown in messages. -/
def description (settings : TransferSettings) : String :=
  Description.record "ConfigureRequest"
    [("idle_cycles", Description.nat settings.idleCycles.toNat),
      ("wait_retry", Description.nat settings.waitRetry.toNat),
      ("match_retry", Description.nat settings.matchRetry.toNat)]

end TransferSettings

/-- Parameters of serial wire debug. -/
structure SwdSettings where
  /-- Turnaround period in cycles; values outside 1 to 4 are taken to the nearest of these. -/
  turnaround : UInt8 := 1
  /-- Whether WAIT and FAULT are followed by a data phase. -/
  dataPhase : Bool := false
  deriving DecidableEq, Repr

namespace SwdSettings

/-- What follows the command code: one byte with both parameters. -/
def payload (settings : SwdSettings) : Bytes :=
  [UInt8.ofNat
    ((min (max settings.turnaround.toNat 1) 4 - 1) + if settings.dataPhase then 4 else 0)]

/-- The settings as shown in messages. -/
def description (settings : SwdSettings) : String :=
  Description.record "ConfigureRequest"
    [("turnaround", Description.nat settings.turnaround.toNat),
      ("data_phase", Description.bool settings.dataPhase)]

end SwdSettings

end DebugProbe
