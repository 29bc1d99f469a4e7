import DebugProbe.Session.Basic

/-!
# Register accesses of a session

Every access first puts right what an earlier one left behind: sticky errors are cleared if the
configuration says so, and a missing acknowledge is followed by a line reset and a read of the
identification. An explicit batch is flushed as a whole; other accesses are refused as long as one
is queued.
Specification: `SPEC_FULL.md` §4.4.
-/

namespace DebugProbe

namespace Session

variable {σ : Type} [Transport σ]

/-- The line sequences that bring a connected debug port back to listening. -/
def recoverySequences (protocol : WireProtocol) (targetSel : Option UInt32) :
    Action σ CommandError Unit := do
  match protocol with
  | .jtag => Line.tapReset
  | .swd =>
    Line.reset Line.idleAfterReset
    match targetSel with
    | none => return
    | some targetSel =>
      Line.targetSelect targetSel
      Line.idle Line.idleAfterReset

/-- Recovers the line after a missing acknowledge. The identification has to be the first thing that
is read, and replaces the one read before. -/
def recoverLine : Action (Session σ) AccessError Unit := do
  let session ← get
  let protocol := session.link.state.protocol?.getD session.config.session.protocol
  onLink (Link.command (recoverySequences protocol session.config.session.targetSel))
  modifyState fun state ↦ { state with selectCache := none, lineResetPending := false }
  let dpidr ← onLink
    (readRegister session.config.transfer (.debug DebugPort.identificationAddress))
  modifyState fun state ↦ { state with dpidr := some dpidr }

/-- Puts right what earlier accesses left behind. -/
def prepare : Action (Session σ) AccessError Unit := do
  let session ← get
  if !session.link.state.isConnected then throw .notConnected
  if session.link.state.stickyError && session.config.session.autoClearSticky then
    onLink Link.clearStickyErrors
  if (← get).link.state.lineResetPending then recoverLine

/-- The debug port register at an address, if it is one. -/
def debugRegister (address : UInt8) : Except AccessError RegisterAddress :=
  match RegisterAddress.debug? address with
  | some register => .ok register
  | none => .error (.invalidAddress address.toUInt32)

/-- The access port register at an address, if it is one. -/
def accessRegister (address : UInt32) : Except AccessError RegisterAddress :=
  match RegisterAddress.access? address with
  | some register => .ok register
  | none => .error (.invalidAddress address)

/-- Reads a register on behalf of an operation. -/
def read (operation : Operation) (register : Except AccessError RegisterAddress) :
    Action (Session σ) OperationError UInt32 :=
  operate operation do
    prepare
    onLink (readRegister (← get).config.transfer (← Action.ofExcept register))

/-- Writes a register on behalf of an operation. -/
def write (operation : Operation) (register : Except AccessError RegisterAddress)
    (value : UInt32) : Action (Session σ) OperationError Unit :=
  operate operation do
    prepare
    onLink (writeRegister (← get).config.transfer (← Action.ofExcept register) value)

/-- Reads a debug port register. -/
def readDp (address : UInt8) : Action (Session σ) OperationError UInt32 :=
  read (.readDp address) (debugRegister address)

/-- Writes a debug port register. -/
def writeDp (address : UInt8) (value : UInt32) : Action (Session σ) OperationError Unit :=
  write (.writeDp address value) (debugRegister address) value

/-- Reads an access port register, the port being in the top byte of the address. -/
def readAp (address : UInt32) : Action (Session σ) OperationError UInt32 :=
  read (.readAp address) (accessRegister address)

/-- Writes an access port register, the port being in the top byte of the address. -/
def writeAp (address : UInt32) (value : UInt32) : Action (Session σ) OperationError Unit :=
  write (.writeAp address value) (accessRegister address) value

/-- Adds an access to the explicit batch and gives its position there. -/
def queue (access : RegisterAccess) : Action (Session σ) OperationError Nat :=
  operate (.queue access) do
    if (← get).link.batch.isEmpty then prepare
    let packetSize ← onProbe Probe.packetSize
    onLink (Link.queue packetSize access)

/-- Sends the explicit batch and gives one response for each access in it. -/
def flush : Action (Session σ) OperationError (List AccessResponse) :=
  operate .flush do
    onLink (Link.flush (← get).config.transfer)

/-- Clears every sticky flag of the target. -/
def clearStickyErrors : Action (Session σ) OperationError Unit :=
  operate .clearSticky (onLink Link.clearStickyErrors)

/-- Gives up a transfer that the probe keeps retrying and drops the explicit batch. What SELECT
holds is not known afterwards. -/
def abortTransfer : Action (Session σ) OperationError Unit :=
  operate .flush do
    let result ← (onLink Link.abortTransfer).attempt
    onLink (Action.update Link.forgetSelect)
    Action.ofExcept result

end Session

end DebugProbe
