import DebugProbe.Probe.Exchange

/-!
# Capabilities and identification of a probe

What a probe can do is asked for once: its packet size, which every later exchange uses, the number
of packets it buffers, its capability flags, the size of its trace buffer if it has one, and its
protocol version, which decides whether it can select one target on a multi-drop line.
Specification: `SPEC_FULL.md` §3.
-/

namespace DebugProbe

/-- What a probe can do. -/
structure Capabilities where
  packetSize : UInt16
  packetCount : UInt8
  /-- The fastest clock; probes do not tell it, so it comes from the configuration. -/
  maxClock : UInt32
  flags : CapabilityFlags
  protocolVersion : Option String
  /-- Whether a target on a multi-drop line can be selected. -/
  multidrop : Bool
  /-- Told only by probes with trace support. -/
  traceBufferSize : Option UInt32
  deriving DecidableEq, Repr

namespace Capabilities

/-- Whether the probe can use a protocol. -/
def supports (capabilities : Capabilities) : WireProtocol → Bool
  | .swd => capabilities.flags.swd
  | .jtag => capabilities.flags.jtag

/-- The protocols that the probe can use. -/
def protocols (capabilities : Capabilities) : List WireProtocol :=
  [.swd, .jtag].filter capabilities.supports

/-- The value of a run of decimal digits. -/
def decimal (digits : List Char) : Nat :=
  digits.foldl (fun value c ↦ 10 * value + (c.toNat - 48)) 0

/-- The first decimal number in a version text, if it fits in 32 bits. -/
def majorVersion? (version : String) : Option Nat :=
  let digits := (version.toList.dropWhile fun c ↦ !c.isDigit).takeWhile Char.isDigit
  if digits.isEmpty then none
  else
    let value := decimal digits
    if value < UInt32.size then some value else none

/-- Multi-drop selection is available from version 2 of the protocol on. -/
def allowsMultidrop (version : Option String) : Bool :=
  match version.bind majorVersion? with
  | some major => 2 ≤ major
  | none => false

example : allowsMultidrop (some "2.0.0") = true ∧ allowsMultidrop (some "1.3.0") = false ∧
    allowsMultidrop (some "v10") = true ∧ allowsMultidrop none = false := by decide +kernel

end Capabilities

/-- What a probe says about itself and the board it is on. -/
structure Identification where
  vendor : Option String := none
  product : Option String := none
  serialNumber : Option String := none
  protocolVersion : Option String := none
  targetVendor : Option String := none
  targetName : Option String := none
  boardVendor : Option String := none
  boardName : Option String := none
  firmwareVersion : Option String := none
  deriving DecidableEq, Repr

namespace Identification

/-- The identification for display: a line for each text that is known. -/
def text (identification : Identification) : String :=
  let lines := [
    ("Vendor", identification.vendor),
    ("Product", identification.product),
    ("Serial number", identification.serialNumber),
    ("CMSIS-DAP version", identification.protocolVersion),
    ("Firmware version", identification.firmwareVersion),
    ("Target vendor", identification.targetVendor),
    ("Target name", identification.targetName),
    ("Board vendor", identification.boardVendor),
    ("Board name", identification.boardName)]
  String.join (lines.filterMap fun (name, value) ↦ value.map fun shown ↦
    name ++ ": " ++ shown ++ "\n")

end Identification

namespace Probe

variable {σ : Type} [Transport σ]

/-- Negotiates the packet size and asks for the capabilities. -/
def queryCapabilities (maxClock : UInt32) : Action σ CommandError Capabilities := do
  let packetSize ← findPacketSize
  let packetCount ← send .infoPacketCount
  let flags ← send .infoCapabilities
  let traceBufferSize ←
    if flags.traceUart || flags.traceManchester then some <$> send .infoTraceBufferSize
    else pure none
  let protocolVersion ← send (.infoText .protocolVersion)
  return {
    packetSize, packetCount, maxClock, flags, protocolVersion, traceBufferSize
    multidrop := Capabilities.allowsMultidrop protocolVersion }

/-- Asks for every text of the identification. -/
def identify : Action σ CommandError Identification := do
  let vendor ← send (.infoText .vendor)
  let product ← send (.infoText .product)
  let serialNumber ← send (.infoText .serialNumber)
  let protocolVersion ← send (.infoText .protocolVersion)
  let targetVendor ← send (.infoText .targetVendor)
  let targetName ← send (.infoText .targetName)
  let boardVendor ← send (.infoText .boardVendor)
  let boardName ← send (.infoText .boardName)
  let firmwareVersion ← send (.infoText .firmwareVersion)
  return {
    vendor, product, serialNumber, protocolVersion, targetVendor, targetName, boardVendor
    boardName, firmwareVersion }

end Probe

end DebugProbe
