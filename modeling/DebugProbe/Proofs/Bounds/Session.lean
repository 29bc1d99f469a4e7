import DebugProbe.Proofs.Bounds.Memory
import DebugProbe.Proofs.Session.Escalation

/-!
# Calls that stay inside

Every call of a session that runs over positions or computes a difference, with these checked. From
any session, over any transport, such a call stays inside and does what the call does.
-/

namespace DebugProbe

namespace Checked.OnLine

variable {σ : Type} [Transport σ]

/-- Clocks cycles with the line low, at most 64 at a time. -/
def idle (cycles : Nat) : Checked σ CommandError Unit := do
  if cycles = 0 then return
  else
    let clocked := min cycles 64
    ofAction (Line.pattern clocked 0)
    let ⟨_⟩ ← demand (clocked ≤ cycles)
    idle (cycles - clocked)
termination_by cycles
decreasing_by
  have some : 0 < cycles := Nat.pos_of_ne_zero ‹_›
  exact Nat.sub_lt some (Nat.lt_min.mpr ⟨some, by decide⟩)

/-- Resets the line and keeps it low for some cycles. -/
def reset (idleCycles : Nat) : Checked σ CommandError Unit := do
  if Line.resetCycles + idleCycles ≤ 64 then
    ofAction (Line.pattern (Line.resetCycles + idleCycles) Line.resetBits)
  else
    ofAction (Line.pattern Line.resetCycles Line.resetBits)
    idle idleCycles

/-- Brings the line into the state in which the chosen debug port can be talked to. The switches
between protocols clock no idle cycles on their own. -/
def connect (protocol : WireProtocol) (choice : DebugPortChoice) : Checked σ LineError Unit :=
  match protocol, choice with
  | .swd, .multidrop targetSel => (do
      ofAction Line.dormantToSwd
      ofAction (Line.targetSelect targetSel)
      idle Line.idleAfterReset : Checked σ CommandError Unit).mapError .command
  | protocol, choice => ofAction (Line.connect protocol choice)

end Checked.OnLine

namespace Checked.OnSession

variable {σ ε α : Type}

/-- Runs an action of the link. -/
def onLink (checked : Checked (Link σ) ε α) : Checked (Session σ) ε α :=
  checked.within Session.link fun link session ↦ { session with link }

/-- Runs an action of the probe. -/
def onProbe (checked : Checked σ ε α) : Checked (Session σ) ε α :=
  onLink (checked.within Link.transport fun transport link ↦ { link with transport })

variable [Transport σ]

/-- Runs an access on behalf of an operation. -/
def operate (operation : Operation) (checked : Checked (Session σ) AccessError α) :
    Checked (Session σ) OperationError α :=
  (checked.onError fun error session ↦
    if error.isBroken then session.abandon else session).mapError (⟨operation, ·⟩)

/-- Runs an access while connecting. -/
def whileConnecting (operation : Operation) (checked : Checked (Link σ) AccessError α) :
    Checked (Session σ) SessionError α :=
  (onLink checked).mapError fun cause ↦ .operation ⟨operation, cause⟩

/-- Reads a register at once. -/
def readRegister (config : TransferConfig) (register : RegisterAddress) :
    Checked (Link σ) AccessError UInt32 := do
  ofExcept (Session.requireValue (← OnLink.run config (.read register)))

/-- Writes a register at once. -/
def writeRegister (config : TransferConfig) (register : RegisterAddress) (value : UInt32) :
    Checked (Link σ) AccessError Unit := do
  let _ ← OnLink.run config (.write register value)

/-- The line sequences that bring a connected debug port back to listening. -/
def recoverySequences (protocol : WireProtocol) (targetSel : Option UInt32) :
    Checked σ CommandError Unit := do
  match protocol with
  | .jtag => ofAction Line.tapReset
  | .swd =>
    OnLine.reset Line.idleAfterReset
    match targetSel with
    | none => return
    | some targetSel =>
      ofAction (Line.targetSelect targetSel)
      OnLine.idle Line.idleAfterReset

/-- Recovers the line after a missing acknowledge. -/
def recoverLine : Checked (Session σ) AccessError Unit := do
  let session ← get
  let protocol := session.link.state.protocol?.getD session.config.session.protocol
  onLink ((recoverySequences protocol session.config.session.targetSel).within
    Link.transport (fun transport link ↦ { link with transport }) |>.mapError .command)
  ofAction (Session.modifyState fun state ↦
    { state with selectCache := none, lineResetPending := false })
  let dpidr ← onLink
    (readRegister session.config.transfer (.debug DebugPort.identificationAddress))
  ofAction (Session.modifyState fun state ↦ { state with dpidr := some dpidr })

/-- Puts right what earlier accesses left behind. -/
def prepare : Checked (Session σ) AccessError Unit := do
  let session ← get
  if !session.link.state.isConnected then throw .notConnected
  if session.link.state.stickyError && session.config.session.autoClearSticky then
    ofAction (Session.onLink Link.clearStickyErrors)
  if (← get).link.state.lineResetPending then recoverLine

/-- Reads a register on behalf of an operation. -/
def read (operation : Operation) (register : Except AccessError RegisterAddress) :
    Checked (Session σ) OperationError UInt32 :=
  operate operation do
    prepare
    onLink (readRegister (← get).config.transfer (← ofExcept register))

/-- Writes a register on behalf of an operation. -/
def write (operation : Operation) (register : Except AccessError RegisterAddress)
    (value : UInt32) : Checked (Session σ) OperationError Unit :=
  operate operation do
    prepare
    onLink (writeRegister (← get).config.transfer (← ofExcept register) value)

/-- Adds an access to the explicit batch and gives its position there. -/
def queue (access : RegisterAccess) : Checked (Session σ) OperationError Nat :=
  operate (.queue access) do
    if (← get).link.batch.isEmpty then prepare
    let packetSize ← ofAction (Session.onProbe Probe.packetSize)
    onLink (OnLink.queue packetSize access)

/-- Sends the explicit batch and gives one response for each access in it. -/
def flush : Checked (Session σ) OperationError (List AccessResponse) :=
  operate .flush do
    onLink (OnLink.flush (← get).config.transfer)

/-- Reads `size` bytes of memory from an address on; there must be room for as many in memory. -/
def readMemory (address : UInt32) (size : Nat) : Checked (Session σ) OperationError Bytes :=
  operate (.readMemory address size) do
    prepare
    let session ← get
    let _ ← demand (2 * size < UInt64.size)
    let spans ← plan address size
    onLink (readSpans session.config.transfer session.memoryPort spans)

/-- Writes bytes to memory from an address on. -/
def writeMemory (address : UInt32) (data : Bytes) : Checked (Session σ) OperationError Unit :=
  operate (.writeMemory address data.length) do
    prepare
    let session ← get
    let spans ← plan address data.length
    onLink (writeSpans session.config.transfer session.memoryPort data spans 0)

/-- Looks at the power acknowledges up to `polls` times. -/
def awaitPower : (polls : Nat) → Checked (Session σ) SessionError Unit
  | 0 => throw .powerUpTimeout
  | polls + 1 => do
    let config := (← get).config.transfer
    let status ← whileConnecting (.readDp DebugPort.controlAddress)
      (readRegister config (.debug DebugPort.controlAddress))
    if ControlStatus.powered ⟨status⟩ then return
    awaitPower polls

/-- Clears sticky errors, then requests power for both domains and waits for both acknowledges. -/
def powerUp : Checked (Session σ) SessionError Unit := do
  let config := (← get).config
  ofAction (Session.whileConnecting .clearSticky Link.clearStickyErrors)
  let request := ControlStatus.powerUp.word
  whileConnecting (.writeDp DebugPort.controlAddress request)
    (writeRegister config.transfer (.debug DebugPort.controlAddress) request)
  let transport := (← get).link.transport
  awaitPower
    (Transport.polls config.session.powerUpTimeout Session.powerPollInterval transport + 1)

/-- The steps of a connect once the protocol is chosen. -/
def establish (capabilities : Capabilities) (protocol : WireProtocol) :
    Checked (Session σ) SessionError Unit := do
  let config := (← get).config
  let attempts := max config.session.connectAttempts 1
  ofAction (Session.connectPort protocol attempts attempts)
  let clock := min config.session.clock capabilities.maxClock
  ofAction (Session.commandWhileConnecting (Probe.setClock clock))
  ofAction (Session.modifyState fun state ↦ { state with clock := some clock })
  ofAction (Session.commandWhileConnecting (Probe.configureTransfers
    ⟨config.transfer.idleCycles, config.transfer.probeWaitRetry, config.transfer.matchRetry⟩))
  match protocol with
  | .swd => ofAction (Session.commandWhileConnecting (Probe.configureSwd {}))
  | .jtag =>
    ofAction (Session.commandWhileConnecting do
      Probe.configureJtag (← Probe.fitting (JtagChain.ofLengths? config.session.jtagIrLengths)))
    ofAction (Session.modifyState fun state ↦
      { state with dapIndex := config.session.jtagIndex })
  (onProbe (OnLine.connect protocol (.ofTargetSel config.session.targetSel))).mapError fun
    | .multidropNeedsSwd => .multidropUnsupported
    | .command error => .command error
  let dpidr ← whileConnecting (.readDp DebugPort.identificationAddress)
    (readRegister config.transfer (.debug DebugPort.identificationAddress))
  ofAction (Session.modifyState fun state ↦ { state with dpidr := some dpidr })
  if config.session.powerUp then powerUp
  ofAction (Session.commandWhileConnecting (Probe.hostStatus true))

/-- Connects to the target, with `hint` in place of the configured protocol if there is one. -/
def connect (hint : Option WireProtocol) : Checked (Session σ) SessionError WireProtocol := do
  if (← get).link.state.isConnected then ofAction Session.disconnect
  let capabilities ← ofAction Session.queryCapabilities
  let config := (← get).config.session
  let protocol ← ofExcept
    (Session.chooseProtocol capabilities (hint.getD config.protocol) config.allowFallback)
  if config.targetSel.isSome && (!capabilities.multidrop || protocol != .swd) then
    throw .multidropUnsupported
  ofAction (Session.modifyState fun _ ↦ { status := .connecting })
  (establish capabilities protocol).onError fun _ session ↦ session.abandon
  ofAction (Session.modifyState fun state ↦ { state with status := .connected protocol })
  return protocol

/-- An operation of which only the failure counts. -/
def whole {α : Type} (checked : Checked (Session σ) OperationError α) :
    Checked (Session σ) SessionError Unit :=
  ((fun _ ↦ ()) <$> checked).mapError .operation

/-- What a call does to a session. Calls that only send commands compute no position. -/
def call : SessionCall → Checked (Session σ) SessionError Unit
  | .call (.connect hint) => (fun _ ↦ ()) <$> connect hint
  | .call (.readDp address) => whole (read (.readDp address) (Session.debugRegister address))
  | .call (.writeDp address value) =>
    whole (write (.writeDp address value) (Session.debugRegister address) value)
  | .call (.readAp address) => whole (read (.readAp address) (Session.accessRegister address))
  | .call (.writeAp address value) =>
    whole (write (.writeAp address value) (Session.accessRegister address) value)
  | .call (.readMemory address size) => whole (readMemory address size)
  | .call (.writeMemory address data) => whole (writeMemory address data)
  | .call (.queue access) => whole (queue access)
  | .call .flush => whole flush
  | call => ofAction call.action

end Checked.OnSession

namespace Line

open Checked (Matches)

variable {σ : Type} [Transport σ]

theorem matches_idle (cycles : Nat) (state : σ) :
    (Checked.OnLine.idle cycles).Matches (idle cycles) state := by
  induction cycles using Nat.strongRecOn generalizing state with
  | ind cycles ih =>
    rw [Checked.OnLine.idle, idle]
    refine .ite (fun _ ↦ .pure _ _) fun some ↦ ?_
    refine .lift_bind fun _ state _ ↦ ?_
    refine .demand (Nat.min_le_left _ _) ?_
    have less : cycles - min cycles 64 < cycles := by omega
    have same : cycles - min cycles 64 = cycles - 64 := by omega
    rw [← same]
    exact ih _ less state

theorem matches_reset (idleCycles : Nat) (state : σ) :
    (Checked.OnLine.reset idleCycles).Matches (reset idleCycles) state :=
  .ite (fun _ ↦ .lift _ _) fun _ ↦
    .lift_bind fun _ state _ ↦ matches_idle idleCycles state

theorem matches_connect (protocol : WireProtocol) (choice : DebugPortChoice) (state : σ) :
    (Checked.OnLine.connect protocol choice).Matches (connect protocol choice) state := by
  cases protocol with
  | jtag => exact .lift _ _
  | swd =>
    cases choice with
    | sole => exact .lift _ _
    | multidrop targetSel =>
      refine Matches.mapError _ ?_
      refine .lift_bind fun _ state _ ↦ ?_
      exact .lift_bind fun _ state _ ↦ matches_idle idleAfterReset state

end Line

namespace Session

open Checked (Matches)

variable {σ : Type} [Transport σ]

section Parts

variable {ε α : Type}

omit [Transport σ] in
theorem matches_onLink {checked : Checked (Link σ) ε α} {action : Action (Link σ) ε α}
    {session : Session σ} (inner : checked.Matches action session.link) :
    (Checked.OnSession.onLink checked).Matches (onLink action) session :=
  inner.within

omit [Transport σ] in
theorem matches_onProbe {checked : Checked σ ε α} {action : Action σ ε α}
    {session : Session σ} (inner : checked.Matches action session.link.transport) :
    (Checked.OnSession.onProbe checked).Matches (onProbe action) session :=
  matches_onLink inner.within

theorem matches_operate (operation : Operation) {checked : Checked (Session σ) AccessError α}
    {action : Action (Session σ) AccessError α} {session : Session σ}
    (inner : checked.Matches action session) :
    (Checked.OnSession.operate operation checked).Matches (operate operation action) session :=
  (inner.onError _).mapError _

omit [Transport σ] in
theorem matches_whileConnecting (operation : Operation)
    {checked : Checked (Link σ) AccessError α} {action : Action (Link σ) AccessError α}
    {session : Session σ} (inner : checked.Matches action session.link) :
    (Checked.OnSession.whileConnecting operation checked).Matches
      (whileConnecting operation action) session :=
  (matches_onLink inner).mapError _

end Parts

theorem matches_readRegister (config : TransferConfig) (register : RegisterAddress)
    (link : Link σ) :
    (Checked.OnSession.readRegister config register).Matches (readRegister config register) link :=
  (Link.matches_run config _ link).bind fun _ _ _ ↦ .lift _ _

theorem matches_writeRegister (config : TransferConfig) (register : RegisterAddress)
    (value : UInt32) (link : Link σ) :
    (Checked.OnSession.writeRegister config register value).Matches
      (writeRegister config register value) link :=
  (Link.matches_run config _ link).bind fun _ _ _ ↦ .pure _ _

theorem matches_recoverySequences (protocol : WireProtocol) (targetSel : Option UInt32)
    (state : σ) :
    (Checked.OnSession.recoverySequences protocol targetSel).Matches
      (recoverySequences protocol targetSel) state := by
  cases protocol with
  | jtag => exact .lift _ _
  | swd =>
    refine (Line.matches_reset _ state).bind fun _ state _ ↦ ?_
    cases targetSel with
    | none => exact .pure _ _
    | some targetSel =>
      exact .lift_bind fun _ state _ ↦ Line.matches_idle _ state

theorem matches_recoverLine (session : Session σ) :
    Checked.OnSession.recoverLine.Matches recoverLine session := by
  refine .get_bind ?_
  refine (matches_onLink
    ((matches_recoverySequences _ _ session.link.transport).within.mapError _)).bind
      fun _ session _ ↦ ?_
  refine .lift_bind fun _ session _ ↦ ?_
  refine (matches_onLink (matches_readRegister _ _ session.link)).bind fun dpidr session _ ↦ ?_
  exact .lift _ _

theorem matches_prepare (session : Session σ) :
    Checked.OnSession.prepare.Matches prepare session := by
  have recovering (session : Session σ) :
      (do if (← get).link.state.lineResetPending then Checked.OnSession.recoverLine :
        Checked (Session σ) AccessError Unit).Matches
      (do if (← get).link.state.lineResetPending then recoverLine) session :=
    .get_bind (.ite (fun _ ↦ matches_recoverLine session) fun _ ↦ .pure _ _)
  refine .get_bind (.ite (fun _ ↦ ?_) fun _ ↦ ?_)
  · exact .throw_bind _ _ _ _
  · refine .ite (fun _ ↦ ?_) fun _ ↦ recovering session
    exact .lift_bind fun _ session _ ↦ recovering session

theorem matches_read (operation : Operation) (register : Except AccessError RegisterAddress)
    (session : Session σ) :
    (Checked.OnSession.read operation register).Matches (read operation register) session := by
  refine matches_operate _ ?_
  refine (matches_prepare session).bind fun _ session _ ↦ .get_bind ?_
  refine .lift_bind fun register last _ ↦ ?_
  exact matches_onLink (matches_readRegister _ register last.link)

theorem matches_write (operation : Operation) (register : Except AccessError RegisterAddress)
    (value : UInt32) (session : Session σ) :
    (Checked.OnSession.write operation register value).Matches (write operation register value)
      session := by
  refine matches_operate _ ?_
  refine (matches_prepare session).bind fun _ session _ ↦ .get_bind ?_
  refine .lift_bind fun register last _ ↦ ?_
  exact matches_onLink (matches_writeRegister _ register value last.link)

theorem matches_queue (access : RegisterAccess) (session : Session σ) :
    (Checked.OnSession.queue access).Matches (queue access) session := by
  have queueing (session : Session σ) :
      (do
        let packetSize ← Checked.ofAction (onProbe Probe.packetSize)
        Checked.OnSession.onLink (Checked.OnLink.queue packetSize access) :
          Checked (Session σ) AccessError Nat).Matches
      (do
        let packetSize ← onProbe Probe.packetSize
        onLink (Link.queue packetSize access)) session := by
    refine .lift_bind fun size session _ ↦ ?_
    exact matches_onLink (Link.matches_queue size access session.link)
  refine matches_operate _ (.get_bind (.ite (fun _ ↦ ?_) fun _ ↦ queueing session))
  exact (matches_prepare session).bind fun _ session _ ↦ queueing session

theorem matches_flush (session : Session σ) :
    Checked.OnSession.flush.Matches flush session :=
  matches_operate _ (.get_bind (matches_onLink (Link.matches_flush _ session.link)))

theorem matches_readMemory (address : UInt32) {size : Nat} (small : 2 * size < UInt64.size)
    (session : Session σ) :
    (Checked.OnSession.readMemory address size).Matches (readMemory address size) session := by
  refine matches_operate _ ?_
  refine (matches_prepare session).bind fun _ session _ ↦ .get_bind ?_
  refine .demand small (.given (Checked.gives_plan address small) ?_)
  exact matches_onLink (matches_readSpans _ _ (MemorySpan.tiles_plan address size) session.link)

theorem matches_writeMemory (address : UInt32) {data : Bytes}
    (small : 2 * data.length < UInt64.size) (session : Session σ) :
    (Checked.OnSession.writeMemory address data).Matches (writeMemory address data) session := by
  refine matches_operate _ ?_
  refine (matches_prepare session).bind fun _ session _ ↦ .get_bind ?_
  refine .given (Checked.gives_plan address small) ?_
  have covers : data.length - 0 = address.toNat + data.length - address.toNat := by omega
  exact matches_onLink (matches_writeSpans _ _ (MemorySpan.tiles_plan address data.length) covers
    (Nat.zero_le _) session.link)

theorem matches_awaitPower (polls : Nat) (session : Session σ) :
    (Checked.OnSession.awaitPower polls).Matches (awaitPower polls) session := by
  induction polls generalizing session with
  | zero => exact .throw _ _
  | succ polls ih =>
    refine .get_bind ?_
    refine (matches_whileConnecting _ (matches_readRegister _ _ session.link)).bind
      fun status session _ ↦ ?_
    exact .ite (fun _ ↦ .pure _ _) fun _ ↦ ih session

theorem matches_powerUp (session : Session σ) :
    Checked.OnSession.powerUp.Matches powerUp session := by
  refine .get_bind ?_
  refine .lift_bind fun _ session _ ↦ ?_
  refine (matches_whileConnecting _ (matches_writeRegister _ _ _ session.link)).bind
    fun _ session _ ↦ ?_
  exact .get_bind (matches_awaitPower _ session)

theorem matches_establish (capabilities : Capabilities) (protocol : WireProtocol)
    (session : Session σ) :
    (Checked.OnSession.establish capabilities protocol).Matches
      (establish capabilities protocol) session := by
  refine .get_bind ?_
  refine .lift_bind fun _ session _ ↦ ?_
  refine .lift_bind fun _ session _ ↦ ?_
  refine .lift_bind fun _ session _ ↦ ?_
  refine .lift_bind fun _ session _ ↦ ?_
  extract_lets told onward told' onward'
  have arrives (session : Session σ) : (onward ()).Matches (onward' ()) session := by
    refine ((matches_onProbe
      (Line.matches_connect _ _ session.link.transport)).mapError _).bind fun _ session _ ↦ ?_
    refine (matches_whileConnecting _ (matches_readRegister _ _ session.link)).bind
      fun dpidr session _ ↦ ?_
    refine .lift_bind fun _ session _ ↦ ?_
    refine .ite (fun _ ↦ ?_) fun _ ↦ .lift _ _
    exact (matches_powerUp session).bind fun _ _ _ ↦ .lift _ _
  cases protocol with
  | swd => exact .lift_bind fun _ session _ ↦ arrives session
  | jtag =>
    refine .lift_bind fun _ session _ ↦ ?_
    exact .lift_bind fun _ session _ ↦ arrives session

theorem matches_connect (hint : Option WireProtocol) (session : Session σ) :
    (Checked.OnSession.connect hint).Matches (connect hint) session := by
  refine .get_bind ?_
  extract_lets onward onward'
  have arrives (session : Session σ) : (onward ()).Matches (onward' ()) session := by
    refine .lift_bind fun capabilities session _ ↦ .get_bind ?_
    refine .lift_bind fun protocol session _ ↦ ?_
    refine .ite (fun _ ↦ .throw_bind _ _ _ _) fun _ ↦ ?_
    refine .lift_bind fun _ session _ ↦ ?_
    refine ((matches_establish capabilities protocol session).onError _).bind
      fun _ session _ ↦ ?_
    exact .lift_bind fun _ _ _ ↦ .pure _ _
  refine .ite (fun _ ↦ ?_) fun _ ↦ arrives session
  exact .lift_bind fun _ session _ ↦ arrives session

omit [Transport σ] in
theorem matches_whole {α : Type} {checked : Checked (Session σ) OperationError α}
    {action : Action (Session σ) OperationError α} {session : Session σ}
    (inner : checked.Matches action session) :
    (Checked.OnSession.whole checked).Matches (whole action) session :=
  (inner.map _).mapError _

end Session

/-- A call whose arguments there can be: no more than `2 ^ 32` bytes are asked for, and the bytes
to be written fit into memory, of which no piece is larger than half of what 64 bits can count. -/
def SessionCall.Sized : SessionCall → Prop
  | .call (.readMemory _ size) => size ≤ UInt32.size
  | .call (.writeMemory _ data) => 2 * data.length < UInt64.size
  | _ => True

namespace Session

open Checked (Matches)

variable {σ : Type} [Transport σ]

/-- From any session, over any transport, a call stays inside and does what it does. -/
theorem matches_call {call : SessionCall} (sized : call.Sized) (session : Session σ) :
    (Checked.OnSession.call call).Matches call.action session := by
  cases call with
  | call asked =>
    cases asked with
    | connect hint => exact (matches_connect hint session).map _
    | readDp address => exact matches_whole (matches_read _ _ session)
    | writeDp address value => exact matches_whole (matches_write _ _ value session)
    | readAp address => exact matches_whole (matches_read _ _ session)
    | writeAp address value => exact matches_whole (matches_write _ _ value session)
    | readMemory address size =>
      have small : 2 * size < UInt64.size :=
        Nat.lt_of_le_of_lt (Nat.mul_le_mul_left 2 sized) (by decide)
      exact matches_whole (matches_readMemory address small session)
    | writeMemory address data => exact matches_whole (matches_writeMemory address sized session)
    | queue access => exact matches_whole (matches_queue access session)
    | flush => exact matches_whole (matches_flush session)
    | disconnect | clearStickyErrors | abortTransfer => exact .lift _ _
  | queryCapabilities | identify | setClock _ | resetTarget | setResetPin _ => exact .lift _ _

end Session

end DebugProbe
