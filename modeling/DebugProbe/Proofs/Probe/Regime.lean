import DebugProbe.Link.Batch
import DebugProbe.Proofs.Probe.Steady

/-!
# Regimes

A regime says which requests are put to a probe, what holds of the transport all along and which
failures are to be expected. Everything but a transfer and the query of the capabilities is admitted
in every regime, and a transfer is as soon as its batch fits into a packet. So each command of the
library keeps to the regime, and so does what is put together from them.
-/

namespace DebugProbe

/-- Whether the request asks for what nothing but the query of the capabilities asks. -/
def Request.isQuery : Request → Bool
  | infoCapabilities | infoTraceBufferSize | infoPacketCount | infoPacketSize => true
  | _ => false

/-- Whether the request neither accesses registers one by one nor asks what the probe can do. -/
def Request.isOrdinary : Request → Bool
  | transfer _ => false
  | request => !request.isQuery

/-- Whether a transfer failed because its frame does not fit into a packet. -/
def CommandError.isOversized : CommandError → Bool
  | exchange .transfer (.framing (.frameTooLarge _ _)) => true
  | _ => false

/-- Which requests are put to a probe, what holds of the transport all along and which failures are
to be expected. -/
structure Regime (σ : Type) [Transport σ] where
  admits : Request → Prop
  holds : σ → Prop
  expects : CommandError → Prop
  send : ∀ request, admits request → (Probe.send request).Guards holds expects
  drain : ∀ transport, holds transport → holds (Transport.drain transport)
  ordinary : ∀ request, request.isOrdinary = true → admits request
  fitting : ∀ {transport : σ} {entries : List BatchEntry}, holds transport →
    Batch.fits entries (Transport.packetSize transport) = true →
    ∀ dapIndex, admits (.transfer (.ofEntries dapIndex entries))
  usual : ∀ error, error.isOversized = false → expects error

namespace Regime

open DebugProbe.Action (guards_pure guards_throw guards_ite)

variable {σ : Type} [Transport σ] (regime : Regime σ)

/-- The action keeps to the regime. -/
def Governs {α : Type} (action : Action σ CommandError α) : Prop :=
  action.Guards regime.holds regime.expects

/-- Every ordinary command keeps to the regime. -/
theorem sends (request : Request) (isOrdinary : request.isOrdinary = true) :
    regime.Governs (Probe.send request) :=
  regime.send request (regime.ordinary request isOrdinary)

theorem accepts (status : Status) (rejection : Rejection) :
    regime.Governs (Probe.accept status rejection) := by
  cases status with
  | ok => exact guards_pure ()
  | error => exact guards_throw (regime.usual _ rfl)

/-- A command that is answered with a status keeps to the regime. -/
private theorem performs (request : Request) (isOrdinary : request.isOrdinary = true)
    (status : request.Response → Status) (rejection : Rejection) :
    regime.Governs (Probe.send request >>= fun reply ↦ Probe.accept (status reply) rejection) :=
  (regime.sends request isOrdinary).bind fun _ ↦ regime.accepts _ rejection

private theorem fits {α : Type} (parameters? : Option α) :
    regime.Governs (Probe.fitting parameters?) := by
  cases parameters? with
  | some parameters => exact guards_pure parameters
  | none => exact guards_throw (regime.usual _ rfl)

section Commands

theorem connectPort (protocol : Option WireProtocol) :
    regime.Governs (Probe.connectPort protocol) := by
  refine (regime.sends _ rfl).bind fun reply ↦ ?_
  cases reply with
  | failed => exact guards_throw (regime.usual _ rfl)
  | swd => exact guards_pure _
  | jtag => exact guards_pure _

theorem disconnect : regime.Governs Probe.disconnect := regime.performs .disconnect rfl id _

theorem hostStatus (connected : Bool) : regime.Governs (Probe.hostStatus connected) :=
  regime.sends _ rfl

theorem setClock (hertz : UInt32) : regime.Governs (Probe.setClock hertz) :=
  regime.performs (.clock hertz) rfl id _

theorem configureTransfers (settings : TransferSettings) :
    regime.Governs (Probe.configureTransfers settings) :=
  regime.performs (.transferConfigure settings) rfl id _

theorem configureSwd (settings : SwdSettings) : regime.Governs (Probe.configureSwd settings) :=
  regime.performs (.swdConfigure settings) rfl id _

theorem configureJtag (irLengths : Bytes) :
    regime.Governs (Probe.fitting (JtagChain.ofLengths? irLengths) >>= Probe.configureJtag) :=
  (regime.fits _).bind fun chain ↦ regime.performs (.jtagConfigure chain) rfl id _

theorem writeAbort (dapIndex : UInt8) (value : UInt32) :
    regime.Governs (Probe.writeAbort dapIndex value) :=
  regime.performs (.writeAbort dapIndex value) rfl id _

theorem transferBlock (request : BlockRequest) : regime.Governs (Probe.transferBlock request) :=
  regime.sends _ rfl

theorem abortTransfer : regime.Governs Probe.abortTransfer := regime.sends _ rfl

theorem resetTarget : regime.Governs Probe.resetTarget :=
  regime.performs .resetTarget rfl ResetReply.status _

theorem setResetPin (level : Bool) : regime.Governs (Probe.setResetPin level) :=
  regime.sends _ rfl

theorem identify : regime.Governs Probe.identify := by
  unfold Probe.identify
  iterate 9 refine (regime.sends _ rfl).bind fun _ ↦ ?_
  exact guards_pure _

end Commands

section Line

private theorem pattern (cycles : Nat) (bits : UInt64) :
    regime.Governs (Line.pattern cycles bits) := by
  have sending : regime.Governs
      (Probe.fitting (LineSequence.ofBytes? (Bytes.ofUInt64 bits) (UInt8.ofNat cycles)) >>=
        Probe.sendSequence) :=
    (regime.fits _).bind fun sequence ↦ regime.performs (.lineSequence sequence) rfl id _
  exact guards_ite (fun _ ↦ (guards_throw (regime.usual _ rfl)).bind fun _ ↦ sending)
    fun _ ↦ sending

private theorem patterns (cycles : Nat) (all : List UInt64) :
    regime.Governs (Line.patterns cycles all) := by
  induction all with
  | nil => exact guards_pure ()
  | cons bits rest ih => exact (regime.pattern cycles bits).bind fun _ ↦ ih

private theorem idle (cycles : Nat) : regime.Governs (Line.idle cycles) := by
  induction cycles using Line.idle.induct with
  | case1 =>
    unfold Line.idle
    exact guards_pure ()
  | case2 cycles some ih =>
    unfold Line.idle
    rw [if_neg some]
    exact (regime.pattern _ 0).bind fun _ ↦ ih

private theorem lineReset (idleCycles : Nat) : regime.Governs (Line.reset idleCycles) :=
  guards_ite (fun _ ↦ regime.pattern _ _)
    fun _ ↦ (regime.pattern _ _).bind fun _ ↦ regime.idle idleCycles

private theorem tapReset : regime.Governs Line.tapReset := by
  refine Action.Guards.bind ?_ fun _ ↦ guards_pure ()
  exact (regime.sends _ rfl).bind fun _ ↦ (regime.accepts _ _).bind fun _ ↦ guards_pure _

/-- Waking the line keeps to the regime. A target cannot be selected over JTAG. -/
theorem connectLine (protocol : WireProtocol) (choice : DebugPortChoice) :
    (Line.connect protocol choice).Guards regime.holds
      fun error ↦ ∀ cause, error = .command cause → regime.expects cause := by
  have named {action : Action σ CommandError Unit} (governs : regime.Governs action) :
      (action.mapError LineError.command).Guards regime.holds
        fun error ↦ ∀ cause, error = .command cause → regime.expects cause := by
    refine Action.Guards.mapError fun transport holds ↦ (governs transport holds).imp
      (fun _ _ kept ↦ kept) ?_
    rintro error next ⟨isExpected, kept⟩
    exact ⟨fun _ same ↦ LineError.command.inj same ▸ isExpected, kept⟩
  cases protocol with
  | swd =>
    cases choice with
    | sole =>
      exact named ((regime.lineReset _).bind fun _ ↦ (regime.pattern _ _).bind
        fun _ ↦ regime.lineReset _)
    | multidrop targetSel =>
      refine named (Action.Guards.bind ?_ fun _ ↦
        (regime.pattern _ _).bind fun _ ↦ regime.idle _)
      exact (regime.lineReset _).bind fun _ ↦ (regime.pattern _ _).bind
        fun _ ↦ (regime.pattern _ _).bind fun _ ↦ (regime.patterns _ _).bind
        fun _ ↦ (regime.pattern _ _).bind fun _ ↦ regime.lineReset _
  | jtag =>
    cases choice with
    | sole =>
      refine named (Action.Guards.bind ?_ fun _ ↦ regime.tapReset)
      exact (regime.lineReset _).bind fun _ ↦ (regime.pattern _ _).bind
        fun _ ↦ regime.pattern _ _
    | multidrop targetSel => exact guards_throw nofun

/-- Recovering the line keeps to the regime. -/
theorem recoverySequences (protocol : WireProtocol) (targetSel : Option UInt32) :
    regime.Governs (Session.recoverySequences protocol targetSel) := by
  cases protocol with
  | jtag => exact regime.tapReset
  | swd =>
    refine (regime.lineReset _).bind fun _ ↦ ?_
    cases targetSel with
    | none => exact guards_pure ()
    | some targetSel => exact (regime.pattern _ _).bind fun _ ↦ regime.idle _

end Line

end Regime

end DebugProbe
