import DebugProbe.Command.Basic
import DebugProbe.Command.Bootloader
import DebugProbe.Command.Info
import DebugProbe.Command.Pins
import DebugProbe.Command.Sequence
import DebugProbe.Command.Transfer

/-!
# Requests and their frames

A request is a command with its parameters; its type of answer depends on it. `Request.encode`
writes the frame of a request, which is the command code followed by the payload, unless it is
longer than a packet. `Request.decode` reads the frame that answers a request: it has to begin with
the same command code and to be long enough, and bytes after the expected ones are padding.
Specification: `SPEC_FULL.md` §4.1.
-/

namespace DebugProbe

/-- The light that tells of the connection or of the running target. -/
inductive HostLight where
  | connected
  | running
  deriving DecidableEq, Repr

/-- The port mode asked for in a connect request. -/
inductive PortMode where
  | default
  | swd
  | jtag
  deriving DecidableEq, Repr

/-- The answer to a connect request. -/
inductive ConnectReply where
  | failed
  | swd
  | jtag
  deriving DecidableEq, Repr

/-- The answer to a reset request. -/
structure ResetReply where
  status : Status
  /-- Whether the probe has a reset sequence for its target and ran it. -/
  executed : Bool
  deriving DecidableEq, Repr

/-- The answer to a JTAG scan. -/
structure ScanReply where
  status : Status
  /-- The captured bytes of one sequence after the other. -/
  tdo : Bytes
  deriving DecidableEq, Repr

/-- A command with its parameters. -/
inductive Request where
  | infoText (item : InfoText)
  | infoCapabilities
  | infoTraceBufferSize
  | infoPacketCount
  | infoPacketSize
  | hostStatus (light : HostLight) (on : Bool)
  | connect (mode : PortMode)
  | disconnect
  | writeAbort (dapIndex : UInt8) (value : UInt32)
  | resetTarget
  | pins (request : PinRequest)
  | clock (hertz : UInt32)
  | lineSequence (sequence : LineSequence)
  | swdConfigure (settings : SwdSettings)
  | jtagScan (scan : JtagScan)
  | jtagConfigure (chain : JtagChain)
  | transferConfigure (settings : TransferSettings)
  | transfer (request : TransferRequest)
  | transferBlock (request : BlockRequest)
  | transferAbort
  | enterBootloader
  | handshake
  | writeChunk (chunk : FirmwareChunk)
  | checksum (length : UInt32)
  | reboot
  deriving DecidableEq, Repr

namespace Request

/-- What a request is answered with. -/
@[reducible] def Response : Request → Type
  | infoText _ => Option String
  | infoCapabilities => CapabilityFlags
  | infoTraceBufferSize => UInt32
  | infoPacketCount => UInt8
  | infoPacketSize => UInt16
  | hostStatus _ _ => Unit
  | connect _ => ConnectReply
  | disconnect => Status
  | writeAbort _ _ => Status
  | resetTarget => ResetReply
  | pins _ => Pins
  | clock _ => Status
  | lineSequence _ => Status
  | swdConfigure _ => Status
  | jtagScan _ => ScanReply
  | jtagConfigure _ => Status
  | transferConfigure _ => Status
  | transfer _ => TransferReply
  | transferBlock _ => BlockReply
  | transferAbort => Unit
  | enterBootloader => Status
  | handshake => Handshake
  | writeChunk _ => ChunkReply
  | checksum _ => ChecksumReply
  | reboot => Status

/-- The command of a request. -/
def command : Request → Command
  | infoText _ | infoCapabilities | infoTraceBufferSize | infoPacketCount | infoPacketSize => .info
  | hostStatus _ _ => .hostStatus
  | connect _ => .connect
  | disconnect => .disconnect
  | writeAbort _ _ => .writeAbort
  | resetTarget => .resetTarget
  | pins _ => .swjPins
  | clock _ => .swjClock
  | lineSequence _ => .swjSequence
  | swdConfigure _ => .swdConfigure
  | jtagScan _ => .jtagSequence
  | jtagConfigure _ => .jtagConfigure
  | transferConfigure _ => .transferConfigure
  | transfer _ => .transfer
  | transferBlock _ => .transferBlock
  | transferAbort => .transferAbort
  | enterBootloader => .enterBootloader
  | handshake => .bootloaderHandshake
  | writeChunk _ => .firmwareChunk
  | checksum _ => .firmwareChecksum
  | reboot => .bootloaderReboot

/-- The parameters as they follow the command code. -/
def payload : Request → Bytes
  | infoText item => [item.code]
  | infoCapabilities => [Info.capabilitiesCode]
  | infoTraceBufferSize => [Info.traceBufferSizeCode]
  | infoPacketCount => [Info.packetCountCode]
  | infoPacketSize => [Info.packetSizeCode]
  | hostStatus light on =>
    [match light with | .connected => 0 | .running => 1, if on then 1 else 0]
  | connect mode => [match mode with | .default => 0 | .swd => 1 | .jtag => 2]
  | writeAbort dapIndex value => dapIndex :: Bytes.ofUInt32 value
  | pins request => request.payload
  | clock hertz => Bytes.ofUInt32 hertz
  | lineSequence sequence => sequence.payload
  | swdConfigure settings => settings.payload
  | jtagScan scan => scan.payload
  | jtagConfigure chain => chain.payload
  | transferConfigure settings => settings.payload
  | transfer request => request.payload
  | transferBlock request => request.payload
  | writeChunk chunk => chunk.payload
  | checksum length => Bytes.ofUInt32 length
  | disconnect | resetTarget | transferAbort | enterBootloader | handshake | reboot => []

/-- The whole command frame. -/
def frame (request : Request) : Bytes := request.command.code :: request.payload

/-- Two requests can outgrow their one-byte counts; they fit into no packet at all. -/
def overflow? (packetSize : Nat) : Request → Option FramingError
  | transfer request =>
    if TransferRequest.maxCount < request.transfers.length then
      some (.frameTooLarge request.requestSize packetSize)
    else none
  | writeChunk chunk =>
    if FirmwareChunk.maxData < chunk.data.length then
      some (.frameTooLarge (FirmwareChunk.headerSize + chunk.data.length)
        (FirmwareChunk.headerSize + FirmwareChunk.maxData))
    else none
  | _ => none

/-- The frame of a request, if it fits into a packet. -/
def encode (request : Request) (packetSize : Nat) : Except FramingError Bytes :=
  if packetSize = 0 then .error (.frameTooLarge 1 0)
  else match request.overflow? packetSize with
    | some error => .error error
    | none =>
      if request.frame.length ≤ packetSize then .ok request.frame
      else .error (.frameTooLarge request.frame.length packetSize)

/-- What is encoded is the frame of the request, whose counts are in range and which fits. -/
theorem encode_eq_ok_iff {request : Request} {packetSize : Nat} {frame : Bytes} :
    request.encode packetSize = .ok frame ↔
      request.overflow? packetSize = none ∧ request.frame.length ≤ packetSize ∧
        frame = request.frame := by
  unfold encode
  constructor
  · intro encoded
    split at encoded
    · nomatch encoded
    · split at encoded
      · nomatch encoded
      · next inRange =>
        split at encoded
        · next fits => exact ⟨inRange, fits, (Except.ok.inj encoded).symm⟩
        · nomatch encoded
  · rintro ⟨inRange, fits, rfl⟩
    have some : packetSize ≠ 0 := Nat.ne_of_gt (Nat.lt_of_lt_of_le (Nat.succ_pos _) fits)
    rw [if_neg some, inRange]
    exact if_pos fits

/-- A request whose counts outgrow their bytes is too large. -/
theorem frameTooLarge_of_overflow {request : Request} {packetSize : Nat} {error : FramingError}
    (outgrown : request.overflow? packetSize = some error) :
    ∃ size max, error = .frameTooLarge size max := by
  unfold overflow? at outgrown
  split at outgrown
  · split at outgrown <;> cases outgrown
    exact ⟨_, _, rfl⟩
  · split at outgrown <;> cases outgrown
    exact ⟨_, _, rfl⟩
  · nomatch outgrown

/-- What is not encoded is refused as too large. -/
theorem encode_eq_error_iff {request : Request} {packetSize : Nat} :
    (∃ size max, request.encode packetSize = .error (.frameTooLarge size max)) ↔
      (request.overflow? packetSize = none → packetSize < request.frame.length) := by
  constructor
  · rintro ⟨size, max, refused⟩ inRange
    apply Nat.lt_of_not_le
    intro fits
    rw [encode_eq_ok_iff.mpr ⟨inRange, fits, rfl⟩] at refused
    nomatch refused
  · intro large
    by_cases zero : packetSize = 0
    · exact ⟨1, 0, if_pos zero⟩
    · unfold encode
      rw [if_neg zero]
      cases overflow : request.overflow? packetSize with
      | none => exact ⟨_, _, if_neg (Nat.not_le.mpr (large overflow))⟩
      | some error =>
        obtain ⟨size, max, rfl⟩ := frameTooLarge_of_overflow overflow
        exact ⟨size, max, rfl⟩

/-- Bytes that every answer has after the command code. -/
def minReplyLength : Request → Nat
  | resetTarget | transfer _ => 2
  | transferBlock _ => 3
  | transferAbort => 0
  | _ => 1

/-- Whether the probe answers at all; it is silent only when a transfer is aborted. -/
def expectsReply : Request → Bool
  | transferAbort => false
  | _ => true

/-- Reads what follows the command code of an answer. -/
def parse : (request : Request) → (payload : Bytes) → Except FramingError request.Response
  | infoText _, payload => Info.text payload
  | infoCapabilities, payload => Info.capabilities payload
  | infoTraceBufferSize, payload => (Info.number 4 payload).map UInt32.ofNat
  | infoPacketCount, payload => (Info.number 1 payload).map UInt8.ofNat
  | infoPacketSize, payload => (Info.number 2 payload).map UInt16.ofNat
  | hostStatus _ _, _ => .ok ()
  | connect _, payload =>
    let byte := payload.byteAt 0
    if byte = 0 then .ok .failed
    else if byte = 1 then .ok .swd
    else if byte = 2 then .ok .jtag
    else .error (.connectRefused byte)
  | resetTarget, payload => do
    let status ← Status.ofByte (payload.byteAt 0)
    if payload.byteAt 1 = 0 then return ⟨status, false⟩
    else if payload.byteAt 1 = 1 then return ⟨status, true⟩
    else throw .unexpectedAnswer
  | pins _, payload => .ok ⟨payload.byteAt 0⟩
  | jtagScan scan, payload => do
    match ← Status.ofByte (payload.byteAt 0) with
    | .error => return ⟨.error, []⟩
    | .ok =>
      requireLength payload (1 + scan.captureSize)
      return ⟨.ok, (payload.drop 1).take scan.captureSize⟩
  | transfer request, payload => request.parse payload
  | transferBlock request, payload => request.parse payload
  | transferAbort, _ => .ok ()
  | handshake, payload => Handshake.parse payload
  | writeChunk _, payload => ChunkReply.parse payload
  | checksum _, payload => ChecksumReply.parse payload
  | disconnect, payload | writeAbort _ _, payload | clock _, payload | lineSequence _, payload
  | swdConfigure _, payload | jtagConfigure _, payload | transferConfigure _, payload
  | enterBootloader, payload | reboot, payload => Status.ofByte (payload.byteAt 0)

/-- Reads the frame that answers a request. -/
def decode (request : Request) (frame : Bytes) : Except FramingError request.Response :=
  match frame with
  | [] => .error (.tooShort (request.minReplyLength + 1) 0)
  | code :: payload =>
    if code ≠ request.command.code then .error (.commandMismatch request.command.code code)
    else do
      requireLength payload request.minReplyLength
      request.parse payload

end Request

end DebugProbe
