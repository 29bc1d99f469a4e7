import DebugProbe.Probe.Capabilities
import DebugProbe.Proofs.Probe.Conversation
import DebugProbe.Proofs.Probe.Truthful
import DebugProbe.Proofs.Select.Trace
import DebugProbe.Session.Access

/-!
# Steady probes

A steady probe carries accesses out truthfully and reaches the target in no other way: commands that
are not accesses leave the trace alone, except that line sequences may change SELECT. So every
command of the library leaves the trace as it was, or at least what was carried out.
-/

namespace DebugProbe

variable {σ : Type} [Transport σ]

/-- Whether a command frame clocks a pattern out on the line. -/
def Frame.IsSequence (frame : Bytes) : Prop := frame.byteAt 0 = 0x12 ∨ frame.byteAt 0 = 0x14

/-- Whether a command neither accesses registers nor clocks a pattern out on the line. -/
def Command.leavesTarget : Command → Bool
  | .transfer | .transferBlock | .swjSequence | .jtagSequence => false
  | _ => true

theorem Command.code_of_leavesTarget {command : Command} (leaves : command.leavesTarget = true) :
    ¬(command.code = 0x05 ∨ command.code = 0x06) ∧
      ¬(command.code = 0x12 ∨ command.code = 0x14) := by
  revert leaves
  cases command <;> decide

namespace SelectTrace

variable (view : σ → SelectTrace) (ready : σ → Prop)

omit [Transport σ] in
/-- Frames can be exchanged, and the trace is a given one. -/
def Quiet (trace : SelectTrace) (transport : σ) : Prop := ready transport ∧ view transport = trace

omit [Transport σ] in
/-- Frames can be exchanged, and nothing more was carried out. -/
def Unasked (trace : SelectTrace) (transport : σ) : Prop :=
  ready transport ∧ (view transport).log = trace.log

end SelectTrace

open SelectTrace (Quiet Unasked)

/-- The probe behind a transport carries accesses out truthfully, and changes the target by nothing
else than accesses and, as far as SELECT goes, line sequences; `view` is the trace of the target and
`ready` the states in which frames can be exchanged. -/
structure SteadyProbe (view : σ → SelectTrace) (ready : σ → Prop) : Prop where
  truthful : TruthfulProbe SelectTrace.model view ready ready
  command : ∀ {frame : Bytes}, ¬Frame.IsAccess frame → ¬Frame.IsSequence frame → ∀ trace,
    (Probe.converse frame).Keeps (Quiet view ready trace) (Quiet view ready trace)
  sequence : ∀ {frame : Bytes}, Frame.IsSequence frame → ∀ trace,
    (Probe.converse frame).Keeps (Unasked view ready trace) (Unasked view ready trace)
  abort : ∀ trace, (Transport.write (Request.frame .transferAbort) :
    Action σ TransportError Unit).Keeps (Quiet view ready trace) (Quiet view ready trace)
  drain : ∀ {trace : SelectTrace} {transport : σ}, Quiet view ready trace transport →
    Quiet view ready trace (Transport.drain transport)
  setPacketSize : ∀ {trace : SelectTrace} {transport : σ} (size : Nat),
    Quiet view ready trace transport →
    Quiet view ready trace (Transport.setPacketSize size transport)

/-- A request is encoded as its frame, if it is encoded. -/
private theorem Request.encode_cases (request : Request) (packetSize : Nat) :
    request.encode packetSize = .ok request.frame ∨
      ∃ error, request.encode packetSize = .error error := by
  cases encoded : request.encode packetSize with
  | ok frame => exact .inl (congrArg Except.ok (frame_of_encode encoded))
  | error error => exact .inr ⟨error, rfl⟩

namespace Probe

variable {invariant : σ → Prop}

/-- A command keeps what the exchange of its frame keeps. -/
private theorem keeps_send {request : Request} (answered : request.expectsReply = true)
    (keeps : (converse request.frame : Action σ TransportError Bytes).Keeps invariant invariant) :
    (send request : Action σ CommandError request.Response).Keeps invariant invariant := by
  refine Action.Keeps.mapError fun transport holds ↦ ?_
  rw [yields_exchange answered]
  rcases request.encode_cases (Transport.packetSize transport) with whole | ⟨error, refused⟩
  · rw [whole]
    refine (keeps transport holds).imp (fun reply next kept ↦ ?_) (fun _ _ kept ↦ kept)
    split
    · exact kept
    · exact kept
  · rw [refused]
    exact holds

omit [Transport σ] in
theorem keeps_accept (status : Status) (rejection : Rejection) :
    (accept status rejection : Action σ CommandError Unit).Keeps invariant invariant := by
  cases status with
  | ok => exact Action.keeps_pure _
  | error => exact Action.keeps_throw _ fun _ holds ↦ holds

omit [Transport σ] in
theorem keeps_fitting {α : Type} (parameters? : Option α) :
    (fitting parameters? : Action σ CommandError α).Keeps invariant invariant := by
  cases parameters? with
  | none => exact Action.keeps_throw _ fun _ holds ↦ holds
  | some parameters => exact Action.keeps_pure _

end Probe

namespace SteadyProbe

variable {view : σ → SelectTrace} {ready : σ → Prop}

section Commands

variable (steady : SteadyProbe view ready) (trace : SelectTrace)
include steady

/-- A command that is neither an access nor a sequence leaves the trace alone. -/
private theorem send (request : Request) (command : Command) (is : request.command = command)
    (leaves : command.leavesTarget = true) (answered : request.expectsReply = true) :
    (Probe.send request).Keeps (Quiet view ready trace) (Quiet view ready trace) := by
  have code : request.frame.byteAt 0 = command.code := congrArg Command.code is
  refine Probe.keeps_send answered (steady.command ?_ ?_ trace)
  · unfold Frame.IsAccess
    rw [code]
    exact (Command.code_of_leavesTarget leaves).1
  · unfold Frame.IsSequence
    rw [code]
    exact (Command.code_of_leavesTarget leaves).2

theorem hostStatus (connected : Bool) :
    (Probe.hostStatus connected).Keeps (Quiet view ready trace) (Quiet view ready trace) :=
  steady.send trace _ .hostStatus rfl rfl rfl

theorem connectPort (protocol : Option WireProtocol) :
    (Probe.connectPort protocol).Keeps (Quiet view ready trace) (Quiet view ready trace) := by
  refine (steady.send trace _ .connect rfl rfl rfl).bind fun reply ↦ ?_
  cases reply with
  | failed => exact Action.keeps_throw _ fun _ holds ↦ holds
  | swd => exact Action.keeps_pure _
  | jtag => exact Action.keeps_pure _

theorem disconnectPort :
    Probe.disconnect.Keeps (Quiet view ready trace) (Quiet view ready trace) :=
  (steady.send trace _ .disconnect rfl rfl rfl).bind fun _ ↦ Probe.keeps_accept _ _

theorem setClock (hertz : UInt32) :
    (Probe.setClock hertz).Keeps (Quiet view ready trace) (Quiet view ready trace) :=
  (steady.send trace _ .swjClock rfl rfl rfl).bind fun _ ↦ Probe.keeps_accept _ _

theorem configureTransfers (settings : TransferSettings) :
    (Probe.configureTransfers settings).Keeps (Quiet view ready trace) (Quiet view ready trace) :=
  (steady.send trace _ .transferConfigure rfl rfl rfl).bind fun _ ↦ Probe.keeps_accept _ _

theorem configureSwd (settings : SwdSettings) :
    (Probe.configureSwd settings).Keeps (Quiet view ready trace) (Quiet view ready trace) :=
  (steady.send trace _ .swdConfigure rfl rfl rfl).bind fun _ ↦ Probe.keeps_accept _ _

theorem configureJtag (chain : JtagChain) :
    (Probe.configureJtag chain).Keeps (Quiet view ready trace) (Quiet view ready trace) :=
  (steady.send trace _ .jtagConfigure rfl rfl rfl).bind fun _ ↦ Probe.keeps_accept _ _

theorem writeAbort (dapIndex : UInt8) (value : UInt32) :
    (Probe.writeAbort dapIndex value).Keeps (Quiet view ready trace) (Quiet view ready trace) :=
  (steady.send trace _ .writeAbort rfl rfl rfl).bind fun _ ↦ Probe.keeps_accept _ _

theorem sendAbort :
    Probe.abortTransfer.Keeps (Quiet view ready trace) (Quiet view ready trace) := by
  refine Action.Keeps.mapError fun transport holds ↦ ?_
  unfold Probe.exchange Probe.packetSize
  simp only [Action.yields_bind, Action.yields_get, Action.yields_pure, Action.yields_mapError]
  rcases Request.encode_cases .transferAbort (Transport.packetSize transport) with
    whole | ⟨error, refused⟩
  · rw [whole, Action.yields_ofExcept]
    exact steady.abort trace transport holds
  · rw [refused, Action.yields_ofExcept]
    exact holds

/-- Asking for the packet size again and again leaves the trace alone. -/
private theorem negotiate (attempts : Nat) :
    (Probe.negotiate attempts).Keeps (Quiet view ready trace) (Quiet view ready trace) := by
  induction attempts with
  | zero => exact Action.keeps_throw _ fun _ holds ↦ holds
  | succ attempts ih =>
    unfold Probe.negotiate
    refine (steady.send trace _ .info rfl rfl rfl).attempt.bind fun reply ↦ ?_
    split
    · next size =>
      exact (Action.keeps_update fun _ quiet ↦ steady.setPacketSize _ quiet).bind
        fun _ ↦ Action.keeps_pure _
    · exact ih
    · exact Action.keeps_throw _ fun _ holds ↦ holds

theorem queryCapabilities (maxClock : UInt32) :
    (Probe.queryCapabilities maxClock).Keeps (Quiet view ready trace) (Quiet view ready trace) := by
  have info (request : Request) (is : request.command = .info)
      (answered : request.expectsReply = true) :
      (Probe.send request).Keeps (Quiet view ready trace) (Quiet view ready trace) :=
    steady.send trace request .info is rfl answered
  unfold Probe.queryCapabilities
  refine (steady.negotiate trace Probe.packetSizeAttempts).bind fun packetSize ↦ ?_
  refine (info .infoPacketCount rfl rfl).bind fun packetCount ↦ ?_
  refine (info .infoCapabilities rfl rfl).bind fun flags ↦ ?_
  -- Both branches end with the same two steps, which ask for the version and collect the answers.
  have ending {collect : Option String → Capabilities} :
      (Probe.send (.infoText .protocolVersion) >>= fun version ↦ pure (collect version) :
        Action σ CommandError Capabilities).Keeps (Quiet view ready trace)
        (Quiet view ready trace) :=
    (info (.infoText .protocolVersion) rfl rfl).bind fun version ↦ Action.keeps_pure _
  exact Action.keeps_ite ((info .infoTraceBufferSize rfl rfl).map.bind fun _ ↦ ending)
    ((Action.keeps_pure none).bind fun _ ↦ ending)

end Commands

section Sequences

variable (steady : SteadyProbe view ready) (trace : SelectTrace)
include steady

/-- Clocking out a pattern asks for no access. -/
private theorem pattern (cycles : Nat) (bits : UInt64) :
    (Line.pattern cycles bits).Keeps (Unasked view ready trace) (Unasked view ready trace) := by
  have sending (sequence : LineSequence) :
      (Probe.sendSequence sequence).Keeps (Unasked view ready trace) (Unasked view ready trace) :=
    (Probe.keeps_send rfl (steady.sequence (.inl rfl) trace)).bind fun _ ↦ Probe.keeps_accept _ _
  unfold Line.pattern Probe.sendBits
  exact Action.keeps_ite ((Action.keeps_throw _ fun _ holds ↦ holds).bind fun _ ↦
      (Probe.keeps_fitting _).bind sending)
    ((Probe.keeps_fitting _).bind sending)

private theorem patterns (cycles : Nat) (all : List UInt64) :
    (Line.patterns cycles all).Keeps (Unasked view ready trace) (Unasked view ready trace) := by
  induction all with
  | nil => exact Action.keeps_pure _
  | cons bits rest ih => exact (steady.pattern trace cycles bits).bind fun _ ↦ ih

private theorem idle (cycles : Nat) :
    (Line.idle cycles).Keeps (Unasked view ready trace) (Unasked view ready trace) := by
  induction cycles using Line.idle.induct with
  | case1 => 
    unfold Line.idle
    exact Action.keeps_pure _
  | case2 cycles some ih =>
    unfold Line.idle
    rw [if_neg some]
    exact (steady.pattern trace _ 0).bind fun _ ↦ ih

private theorem lineReset (idleCycles : Nat) :
    (Line.reset idleCycles).Keeps (Unasked view ready trace) (Unasked view ready trace) :=
  Action.keeps_ite (steady.pattern trace _ _)
    ((steady.pattern trace _ _).bind fun _ ↦ steady.idle trace idleCycles)

private theorem tapReset :
    Line.tapReset.Keeps (Unasked view ready trace) (Unasked view ready trace) := by
  refine Action.Keeps.bind ?_ fun _ ↦ Action.keeps_pure _
  exact (Probe.keeps_send rfl (steady.sequence (.inr rfl) trace)).bind
    fun _ ↦ (Probe.keeps_accept _ _).bind fun _ ↦ Action.keeps_pure _

/-- Waking the line asks for no access. -/
theorem connectLine (protocol : WireProtocol) (choice : DebugPortChoice) :
    (Line.connect protocol choice).Keeps (Unasked view ready trace)
      (Unasked view ready trace) := by
  cases protocol with
  | swd =>
    cases choice with
    | sole =>
      apply Action.Keeps.mapError
      exact (steady.lineReset trace _).bind fun _ ↦ (steady.pattern trace _ _).bind
        fun _ ↦ steady.lineReset trace _
    | multidrop targetSel =>
      refine Action.Keeps.mapError (Action.Keeps.bind ?_ fun _ ↦
        (steady.pattern trace _ _).bind fun _ ↦ steady.idle trace _)
      refine (steady.lineReset trace _).bind fun _ ↦ (steady.pattern trace _ _).bind
        fun _ ↦ (steady.pattern trace _ _).bind fun _ ↦ (steady.patterns trace _ _).bind
        fun _ ↦ (steady.pattern trace _ _).bind fun _ ↦ steady.lineReset trace _
  | jtag =>
    cases choice with
    | sole =>
      refine Action.Keeps.mapError (Action.Keeps.bind ?_ fun _ ↦ steady.tapReset trace)
      exact (steady.lineReset trace _).bind fun _ ↦ (steady.pattern trace _ _).bind
        fun _ ↦ steady.pattern trace _ _
    | multidrop targetSel => exact Action.keeps_throw _ fun _ holds ↦ holds

/-- Recovering the line asks for no access. -/
theorem recoverySequences (protocol : WireProtocol) (targetSel : Option UInt32) :
    (Session.recoverySequences protocol targetSel).Keeps (Unasked view ready trace)
      (Unasked view ready trace) := by
  cases protocol with
  | jtag => exact steady.tapReset trace
  | swd =>
    refine (steady.lineReset trace _).bind fun _ ↦ ?_
    cases targetSel with
    | none => exact Action.keeps_pure _
    | some targetSel =>
      exact (steady.pattern trace _ _).bind fun _ ↦ steady.idle trace _

end Sequences

end SteadyProbe

end DebugProbe
