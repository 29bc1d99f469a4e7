import DebugProbe.Line
import DebugProbe.Link.Transfer
import DebugProbe.Probe.Capabilities
import DebugProbe.Session.Error

/-!
# Sessions

A session owns a link and does every debug operation on it one after the other. When an exchange
with the probe breaks, the session gives the link up: the batch is dropped, the state goes back to
disconnected and answers that are still under way are drained, so that none of them is taken for
the answer to a later command.
Specification: `SPEC_FULL.md` §§3/4.4.
-/

namespace DebugProbe

/-- A link with its configuration and, once they were asked for, the capabilities of the probe. -/
structure Session (σ : Type) where
  link : Link σ
  config : Config := {}
  capabilities : Option Capabilities := none

namespace Session

variable {σ : Type} {ε α : Type}

/-- A disconnected session over a transport. -/
def new (transport : σ) (config : Config) : Session σ := { link := { transport }, config }

/-- Runs an action of the link. -/
def onLink (action : Action (Link σ) ε α) : Action (Session σ) ε α :=
  action.within Session.link fun link session ↦ { session with link }

/-- Runs an action of the probe. -/
def onProbe (action : Action σ ε α) : Action (Session σ) ε α := onLink (Link.onProbe action)

/-- Replaces the state of the connection. -/
def modifyState (change : LinkState → LinkState) : Action (Session σ) ε Unit :=
  onLink (Link.modifyState change)

/-- Drops the batch and forgets everything about the target. -/
def reset (session : Session σ) : Session σ :=
  { session with link := { session.link with state := {}, batch := {} } }

variable [Transport σ]

/-- Gives the link up: everything is forgotten and answers under way are drained. -/
def abandon (session : Session σ) : Session σ :=
  let idle := session.reset
  { idle with link := { idle.link with transport := Transport.drain idle.link.transport } }

/-- Runs a command; a broken exchange gives the link up. -/
def command (action : Action σ CommandError α) : Action (Session σ) SessionError α :=
  ((onProbe action).onError fun error session ↦
    if error.isBroken then session.abandon else session).mapError .command

/-- Runs an access on behalf of an operation; a broken exchange gives the link up. -/
def operate (operation : Operation) (action : Action (Session σ) AccessError α) :
    Action (Session σ) OperationError α :=
  (action.onError fun error session ↦
    if error.isBroken then session.abandon else session).mapError (⟨operation, ·⟩)

/-- The capabilities of the probe, asked for once. -/
def queryCapabilities : Action (Session σ) SessionError Capabilities := do
  let session ← get
  match session.capabilities with
  | some capabilities => return capabilities
  | none =>
    let capabilities ← command (Probe.queryCapabilities session.config.probe.maxClock)
    modify fun session ↦ { session with capabilities := some capabilities }
    return capabilities

/-- What the probe says about itself. -/
def identify : Action (Session σ) SessionError Identification := command Probe.identify

/-- Leaves the target alone; nothing happens to a session that is not connected. Both commands are
sent whatever becomes of the first one, whose failure is the one that counts. -/
def disconnect : Action (Session σ) SessionError Unit := do
  if (← get).link.state.status = .disconnected then return
  let told ← (onProbe (Probe.hostStatus false)).attempt
  let released ← (onProbe Probe.disconnect).attempt
  Action.update reset
  (Action.ofExcept (told.bind fun _ ↦ released)).mapError .command

/-- Runs an access while connecting. -/
def whileConnecting (operation : Operation) (action : Action (Link σ) AccessError α) :
    Action (Session σ) SessionError α :=
  (onLink action).mapError fun cause ↦ .operation ⟨operation, cause⟩

/-- Runs a command while connecting. -/
def commandWhileConnecting (action : Action σ CommandError α) : Action (Session σ) SessionError α :=
  (onProbe action).mapError .command

/-- The value that a read must have given. -/
def requireValue (value : Option UInt32) : Except AccessError UInt32 :=
  match value with
  | some word => .ok word
  | none => .error (.unexpectedAnswer .transfer)

/-- Reads a register at once. -/
def readRegister (config : TransferConfig) (register : RegisterAddress) :
    Action (Link σ) AccessError UInt32 := do
  Action.ofExcept (requireValue (← Link.run config (.read register)))

/-- Writes a register at once. -/
def writeRegister (config : TransferConfig) (register : RegisterAddress) (value : UInt32) :
    Action (Link σ) AccessError Unit := do
  let _ ← Link.run config (.write register value)

/-- The protocol to use: the requested one, else the other one if that is allowed. -/
def chooseProtocol (capabilities : Capabilities) (requested : WireProtocol) (allowFallback : Bool) :
    Except SessionError WireProtocol :=
  if capabilities.supports requested then .ok requested
  else if allowFallback && capabilities.supports requested.other then .ok requested.other
  else .error (.unsupportedProtocol requested)

/-- Asks for the port up to `attempts` times until the probe gives the wanted protocol; refusals and
the other protocol are tried again, anything else is not. -/
def connectPort (protocol : WireProtocol) (total : Nat) :
    (attempts : Nat) → Action (Session σ) SessionError Unit
  | 0 => throw (.connectFailed total)
  | attempts + 1 => do
    match ← (onProbe (Probe.connectPort (some protocol))).attempt with
    | .ok connected => if connected = protocol then return else connectPort protocol total attempts
    | .error (.rejected (.connect _)) => connectPort protocol total attempts
    | .error error => throw (.command error)

/-- Time between two looks at the power acknowledges, in milliseconds. -/
def powerPollInterval : Nat := 10

/-- Looks at the power acknowledges up to `polls` times. -/
def awaitPower : (polls : Nat) → Action (Session σ) SessionError Unit
  | 0 => throw .powerUpTimeout
  | polls + 1 => do
    let config := (← get).config.transfer
    let status ← whileConnecting (.readDp DebugPort.controlAddress)
      (readRegister config (.debug DebugPort.controlAddress))
    if ControlStatus.powered ⟨status⟩ then return
    awaitPower polls

/-- Clears sticky errors, then requests power for both domains and waits for both acknowledges. They
are looked at once in any case, and again for as long as there is time. -/
def powerUp : Action (Session σ) SessionError Unit := do
  let config := (← get).config
  whileConnecting .clearSticky Link.clearStickyErrors
  let request := ControlStatus.powerUp.word
  whileConnecting (.writeDp DebugPort.controlAddress request)
    (writeRegister config.transfer (.debug DebugPort.controlAddress) request)
  let transport := (← get).link.transport
  awaitPower (Transport.polls config.session.powerUpTimeout powerPollInterval transport + 1)

/-- The steps of a connect once the protocol is chosen. -/
def establish (capabilities : Capabilities) (protocol : WireProtocol) :
    Action (Session σ) SessionError Unit := do
  let config := (← get).config
  let attempts := max config.session.connectAttempts 1
  connectPort protocol attempts attempts
  let clock := min config.session.clock capabilities.maxClock
  commandWhileConnecting (Probe.setClock clock)
  modifyState fun state ↦ { state with clock := some clock }
  commandWhileConnecting (Probe.configureTransfers
    ⟨config.transfer.idleCycles, config.transfer.probeWaitRetry, config.transfer.matchRetry⟩)
  match protocol with
  | .swd => commandWhileConnecting (Probe.configureSwd {})
  | .jtag =>
    commandWhileConnecting do
      Probe.configureJtag (← Probe.fitting (JtagChain.ofLengths? config.session.jtagIrLengths))
    modifyState fun state ↦ { state with dapIndex := config.session.jtagIndex }
  (onProbe (Line.connect protocol (.ofTargetSel config.session.targetSel))).mapError fun
    | .multidropNeedsSwd => .multidropUnsupported
    | .command error => .command error
  let dpidr ← whileConnecting (.readDp DebugPort.identificationAddress)
    (readRegister config.transfer (.debug DebugPort.identificationAddress))
  modifyState fun state ↦ { state with dpidr := some dpidr }
  if config.session.powerUp then powerUp
  commandWhileConnecting (Probe.hostStatus true)

/-- Connects to the target, with `hint` in place of the configured protocol if there is one. A
connected session is disconnected first; a failed connect leaves the session disconnected. -/
def connect (hint : Option WireProtocol) : Action (Session σ) SessionError WireProtocol := do
  if (← get).link.state.isConnected then disconnect
  let capabilities ← queryCapabilities
  let config := (← get).config.session
  let protocol ← Action.ofExcept
    (chooseProtocol capabilities (hint.getD config.protocol) config.allowFallback)
  if config.targetSel.isSome && (!capabilities.multidrop || protocol != .swd) then
    throw .multidropUnsupported
  modifyState fun _ ↦ { status := .connecting }
  (establish capabilities protocol).onError fun _ session ↦ session.abandon
  modifyState fun state ↦ { state with status := .connected protocol }
  return protocol

/-- Sets the clock, at most to the fastest one, and gives the clock that was set. -/
def setClock (hertz : UInt32) : Action (Session σ) SessionError UInt32 := do
  let clock := min hertz (← queryCapabilities).maxClock
  command (Probe.setClock clock)
  modifyState fun state ↦ { state with clock := some clock }
  return clock

/-- Runs the probe's reset sequence for the target. -/
def resetTarget : Action (Session σ) SessionError Unit := command Probe.resetTarget

/-- Drives the reset pin; `false` holds the target in reset. -/
def setResetPin (level : Bool) : Action (Session σ) SessionError Unit := do
  let _ ← command (Probe.setResetPin level)

end Session

end DebugProbe
