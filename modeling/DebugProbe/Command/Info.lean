import DebugProbe.Command.Framing

/-!
# What a probe says about itself

Answers to information queries begin with a length byte. A text is followed by a zero byte that the
length counts, and length zero means that there is no text; a number must have exactly its own
length; capabilities are one or two bytes of flags.
Specification: `SPEC_FULL.md` §§3/4.1.
-/

namespace DebugProbe

/-- The texts that a probe can be asked for. -/
inductive InfoText where
  | vendor
  | product
  | serialNumber
  | protocolVersion
  | targetVendor
  | targetName
  | boardVendor
  | boardName
  | firmwareVersion
  deriving DecidableEq, Repr

/-- The identifier of a text in queries. -/
def InfoText.code : InfoText → UInt8
  | vendor => 0x01
  | product => 0x02
  | serialNumber => 0x03
  | protocolVersion => 0x04
  | targetVendor => 0x05
  | targetName => 0x06
  | boardVendor => 0x07
  | boardName => 0x08
  | firmwareVersion => 0x09

/-- All texts, in the order of their identifiers. -/
def InfoText.all : List InfoText :=
  [vendor, product, serialNumber, protocolVersion, targetVendor, targetName, boardVendor, boardName,
    firmwareVersion]

/-- The text of an identifier. -/
def InfoText.ofCode? (code : UInt8) : Option InfoText := InfoText.all.find? (·.code = code)

/-- Flags that tell what a probe implements, as the 16-bit word they are sent in. -/
structure CapabilityFlags where
  word : UInt16
  deriving DecidableEq, Repr

namespace CapabilityFlags

/-- Whether the flag at a bit position is set. -/
def has (flags : CapabilityFlags) (position : Nat) : Bool := flags.word.toNat.testBit position

/-- Serial wire debug. -/
def swd (flags : CapabilityFlags) : Bool := flags.has 0

/-- JTAG. -/
def jtag (flags : CapabilityFlags) : Bool := flags.has 1

/-- Trace over a serial line. -/
def traceUart (flags : CapabilityFlags) : Bool := flags.has 2

/-- Trace in Manchester encoding. -/
def traceManchester (flags : CapabilityFlags) : Bool := flags.has 3

/-- Atomic command lists. -/
def atomicCommands (flags : CapabilityFlags) : Bool := flags.has 4

/-- A timer in the test domain. -/
def testDomainTimer (flags : CapabilityFlags) : Bool := flags.has 5

/-- Streaming of trace. -/
def traceStreaming (flags : CapabilityFlags) : Bool := flags.has 6

/-- Serial communication commands. -/
def uartPort (flags : CapabilityFlags) : Bool := flags.has 7

/-- A serial port on the host. -/
def uartComPort (flags : CapabilityFlags) : Bool := flags.has 8

end CapabilityFlags

namespace Info

/-- The identifier of the capability query. -/
def capabilitiesCode : UInt8 := 0xF0

/-- The identifier of the trace buffer size query. -/
def traceBufferSizeCode : UInt8 := 0xFD

/-- The identifier of the packet count query. -/
def packetCountCode : UInt8 := 0xFE

/-- The identifier of the packet size query. -/
def packetSizeCode : UInt8 := 0xFF

/-- A text without the zero characters at its end. -/
def trimZeros (text : String) : String :=
  String.ofList (text.toList.reverse.dropWhile (· == '\x00')).reverse

/-- Reads an optional text. -/
def text (payload : Bytes) : Except FramingError (Option String) := do
  let size := (payload.byteAt 0).toNat
  if size = 0 then return none
  requireLength payload (1 + size)
  match String.fromUTF8? ((payload.drop 1).take size).toByteArray with
  | some content => return some (trimZeros content)
  | none => throw .invalidString

/-- Reads the bytes of a number of `size` bytes. -/
def number (size : Nat) (payload : Bytes) : Except FramingError Nat := do
  if (payload.byteAt 0).toNat ≠ size then throw .unexpectedAnswer
  requireLength payload (1 + size)
  return Bytes.number ((payload.drop 1).take size)

/-- Reads capability flags; a second byte that is not sent counts as zero. -/
def capabilities (payload : Bytes) : Except FramingError CapabilityFlags := do
  let size := (payload.byteAt 0).toNat
  if size = 0 then throw .unexpectedAnswer
  requireLength payload (1 + size)
  return ⟨UInt16.ofNat (Bytes.number ((payload.drop 1).take (min size 2)))⟩

end Info

end DebugProbe
