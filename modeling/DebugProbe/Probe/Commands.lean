import DebugProbe.Probe.Exchange

/-!
# Commands of a probe

One action for each command, in which an error status becomes the failure `rejected` with the
parameters of the command.
Specification: `SPEC_FULL.md` §4.1.
-/

namespace DebugProbe

namespace Probe

variable {σ : Type} [Transport σ]

/-- An error status is a rejection. -/
def accept (status : Status) (rejection : Rejection) : Action σ CommandError Unit :=
  match status with
  | .ok => pure ()
  | .error => throw (.rejected rejection)

/-- Parameters that do not fit into the command send nothing. -/
def fitting {α : Type} (parameters? : Option α) : Action σ CommandError α :=
  match parameters? with
  | some parameters => pure parameters
  | none => throw .tooMuchData

/-- Selects the port mode; without a protocol the probe uses its default. -/
def connectPort (protocol : Option WireProtocol) : Action σ CommandError WireProtocol := do
  let mode : PortMode := match protocol with
    | some .swd => .swd
    | some .jtag => .jtag
    | none => .default
  match ← send (.connect mode) with
  | .swd => return .swd
  | .jtag => return .jtag
  | .failed => throw (.rejected (.connect protocol))

/-- Releases the port. -/
def disconnect : Action σ CommandError Unit := do
  accept (← send .disconnect) .disconnect

/-- Tells the probe whether the host is connected, for its light. -/
def hostStatus (connected : Bool) : Action σ CommandError Unit :=
  send (.hostStatus .connected connected)

/-- Sets the fastest clock to use. -/
def setClock (hertz : UInt32) : Action σ CommandError Unit := do
  accept (← send (.clock hertz)) (.clock hertz)

/-- Sets the parameters of transfers. -/
def configureTransfers (settings : TransferSettings) : Action σ CommandError Unit := do
  accept (← send (.transferConfigure settings)) (.transferConfigure settings)

/-- Sets the parameters of serial wire debug. -/
def configureSwd (settings : SwdSettings) : Action σ CommandError Unit := do
  accept (← send (.swdConfigure settings)) (.swdConfigure settings)

/-- Describes the JTAG chain. -/
def configureJtag (chain : JtagChain) : Action σ CommandError Unit := do
  accept (← send (.jtagConfigure chain)) (.jtagConfigure chain)

/-- Runs JTAG sequences and gives the captured bytes. -/
def scanJtag (scan : JtagScan) : Action σ CommandError Bytes := do
  let reply ← send (.jtagScan scan)
  accept reply.status (.jtagScan scan)
  return reply.tdo

/-- Clocks bits out on the data line. -/
def sendSequence (sequence : LineSequence) : Action σ CommandError Unit := do
  accept (← send (.lineSequence sequence)) (.lineSequence sequence)

/-- Clocks out the low `bitLength` bits of `bits`, the lowest first; there must be 1 to 64. -/
def sendBits (bitLength : UInt8) (bits : UInt64) : Action σ CommandError Unit := do
  if bitLength = 0 ∨ 64 < bitLength then throw .tooMuchData
  sendSequence (← fitting (LineSequence.ofBytes? (Bytes.ofUInt64 bits) bitLength))

/-- Writes ABORT outside of a transfer. -/
def writeAbort (dapIndex : UInt8) (value : UInt32) : Action σ CommandError Unit := do
  accept (← send (.writeAbort dapIndex value)) (.writeAbort dapIndex value)

/-- Reads and writes several registers. -/
def transfer (request : TransferRequest) : Action σ CommandError TransferReply :=
  send (.transfer request)

/-- Reads or writes one register many times. -/
def transferBlock (request : BlockRequest) : Action σ CommandError BlockReply :=
  send (.transferBlock request)

/-- Stops a transfer that the probe is still retrying; there is no answer. -/
def abortTransfer : Action σ CommandError Unit := send .transferAbort

/-- Runs the probe's reset sequence for the target. -/
def resetTarget : Action σ CommandError Unit := do
  accept (← send .resetTarget).status .resetTarget

/-- Drives the reset pin, low for `false`, and reads all pins back. -/
def setResetPin (level : Bool) : Action σ CommandError Pins :=
  send (.pins { nreset := some level })

/-- The link as shown in diagnostics. -/
def description (timeoutMilliseconds : Nat) (link : σ) : String :=
  Description.record "CmsisDap"
    [("packet_size", Description.nat (Transport.packetSize link)),
      ("timeout", Description.nat timeoutMilliseconds ++ "ms")]

end Probe

end DebugProbe
