import DebugProbe.Proofs.Probe.Regime
import DebugProbe.Proofs.Link.Limits

/-!
# Probes with packets of one size

Nothing but the query of the capabilities changes the packet size of a transport that keeps it. So
there is a regime for each size: transfers are put to the probe only if they are encoded for
packets of that size, and then none of them fails because its frame is too large.
-/

namespace DebugProbe

open DebugProbe.Action
  (guards_pure guards_throw guards_ofExcept guards_update guards_get_bind guards_ite)

variable {σ : Type} [Transport σ]

/-- The packet size of a transport changes only where it is set. -/
structure SteadySize (σ : Type) [Transport σ] : Prop where
  write : ∀ (frame : Bytes) (size : Nat), (Transport.write frame).Keeps
    (fun transport : σ ↦ Transport.packetSize transport = size)
    fun transport ↦ Transport.packetSize transport = size
  read : ∀ size : Nat, Transport.read.Keeps
    (fun transport : σ ↦ Transport.packetSize transport = size)
    fun transport ↦ Transport.packetSize transport = size
  drain : ∀ transport : σ,
    Transport.packetSize (Transport.drain transport) = Transport.packetSize transport

/-- A record does not change when the packet size changes. -/
theorem SteadySize.recorded (steady : SteadySize σ) : SteadySize (Recorded σ) where
  write frame size recorded isSize :=
    .of_left (steady.write frame size recorded.inner isSize).left
  read size recorded isSize := .of_left (steady.read size recorded.inner isSize).left
  drain recorded := steady.drain recorded.inner

/-- The packet size of a transport is the one that was set last. -/
structure LastingSize (σ : Type) [Transport σ] : Prop extends SteadySize σ where
  resize : ∀ (size : Nat) (transport : σ),
    Transport.packetSize (Transport.setPacketSize size transport) = size

/-- A record does not change that the packet size lasts. -/
theorem LastingSize.recorded (lasting : LastingSize σ) : LastingSize (Recorded σ) where
  toSteadySize := lasting.toSteadySize.recorded
  resize size recorded := lasting.resize size recorded.inner

/-- Whether a failure of reading an answer says anything else than that a frame is too large. -/
private def ReadsOn {α : Type} (result : Except FramingError α) : Prop :=
  ∀ error, result = .error error →
    (CommandError.exchange .transfer (.framing error)).isOversized = false

private theorem readsOn_ok {α : Type} (value : α) : ReadsOn (.ok value) := nofun

private theorem ReadsOn.bind {α β : Type} {result : Except FramingError α}
    {next : α → Except FramingError β} (first : ReadsOn result)
    (second : ∀ value, ReadsOn (next value)) : ReadsOn (result >>= next) := by
  cases result with
  | ok value => exact second value
  | error error =>
    intro other failed
    have same : (Except.error error : Except FramingError β) = .error other := failed
    rw [← Except.error.inj same]
    exact first error rfl

private theorem readsOn_requireLength (payload : Bytes) (needed : Nat) :
    ReadsOn (requireLength payload needed) := by
  intro error failed
  unfold requireLength at failed
  split at failed
  · rw [← Except.error.inj failed]
    rfl
  · nomatch failed

private theorem readsOn_readData (payload : Bytes) (transfers : List Transfer) (position : Nat) :
    ReadsOn (TransferRequest.readData payload transfers position) := by
  induction transfers generalizing position with
  | nil => exact readsOn_ok []
  | cons transfer rest ih =>
    unfold TransferRequest.readData
    split
    · exact (readsOn_requireLength _ _).bind fun _ ↦ (ih _).bind fun _ ↦ readsOn_ok _
    · exact (ih _).bind fun _ ↦ readsOn_ok _

/-- Reading the answer to a transfer never complains of a frame that is too large. -/
private theorem readsOn_decode (transfer : TransferRequest) (reply : Bytes) :
    ReadsOn ((Request.transfer transfer).decode reply) := by
  intro error failed
  cases reply with
  | nil =>
    rw [← Except.error.inj failed]
    rfl
  | cons code payload =>
    unfold Request.decode at failed
    dsimp only at failed
    split at failed
    · rw [← Except.error.inj failed]
      rfl
    · refine (readsOn_requireLength _ _).bind (fun _ ↦ ?_) error failed
      intro error failed
      have parsed : transfer.parse payload = .error error := failed
      unfold TransferRequest.parse at parsed
      dsimp only at parsed
      split at parsed
      · rw [← Except.error.inj parsed]
        rfl
      · exact (readsOn_readData _ _ _).bind (fun _ ↦ readsOn_ok _) error parsed

namespace Probe

/-- A command other than a transfer does not fail as a transfer does. -/
private theorem send_unoversized (request : Request) (other : request.command ≠ .transfer) :
    (send request).Guards (fun _ : σ ↦ True) fun error ↦ error.isOversized = false := by
  refine Action.Guards.mapError fun transport _ ↦
    Action.yields_iff.mpr ⟨fun _ _ _ ↦ trivial, fun error _ _ ↦ ⟨?_, trivial⟩⟩
  generalize request.command = command at other
  cases command with
  | transfer => exact absurd rfl other
  | _ => rfl

/-- Finding the packet size does not fail as a transfer does. -/
private theorem negotiate_unoversized (attempts : Nat) :
    (negotiate attempts).Guards (fun _ : σ ↦ True) fun error ↦ error.isOversized = false := by
  induction attempts with
  | zero => exact guards_throw rfl
  | succ attempts ih =>
    refine (send_unoversized .infoPacketSize nofun).attempt_bind fun reply bears ↦ ?_
    split
    · exact (guards_update fun _ _ ↦ trivial).bind fun _ ↦ guards_pure _
    · exact ih
    · next error _ => exact guards_throw (bears error rfl)

/-- Asking what a probe can do does not fail as a transfer does. -/
theorem queryCapabilities_unoversized (maxClock : UInt32) :
    (queryCapabilities maxClock).Guards (fun _ : σ ↦ True)
      fun error ↦ error.isOversized = false := by
  have ending {collect : Option String → Capabilities} :
      (send (.infoText .protocolVersion) >>= fun version ↦ pure (collect version) :
        Action σ CommandError Capabilities).Guards (fun _ ↦ True)
        fun error ↦ error.isOversized = false :=
    (send_unoversized (.infoText .protocolVersion) nofun).bind fun _ ↦ guards_pure _
  refine (negotiate_unoversized packetSizeAttempts).bind fun packetSize ↦
    (send_unoversized .infoPacketCount nofun).bind fun packetCount ↦
    (send_unoversized .infoCapabilities nofun).bind fun flags ↦ ?_
  exact guards_ite (fun _ ↦ (send_unoversized .infoTraceBufferSize nofun).map.bind fun _ ↦ ending)
    fun _ ↦ (guards_pure none).bind fun _ ↦ ending

/-- A transfer that is encoded does not fail because its frame is too large. -/
private theorem transfer_unoversized {transfer : TransferRequest} {transport : σ}
    (encoded : ((Request.transfer transfer).encode (Transport.packetSize transport)).isOk = true) :
    (send (.transfer transfer)).Yields transport (fun _ _ ↦ True)
      fun error _ ↦ error.isOversized = false := by
  unfold send
  rw [Action.yields_mapError, yields_exchange rfl]
  cases written : (Request.transfer transfer).encode (Transport.packetSize transport) with
  | error error =>
    rw [written] at encoded
    nomatch encoded
  | ok frame =>
    refine Action.yields_iff.mpr ⟨fun reply next _ ↦ ?_, fun _ _ _ ↦ rfl⟩
    cases read : (Request.transfer transfer).decode reply with
    | ok response => trivial
    | error error => exact readsOn_decode transfer reply error read

/-- An exchange leaves the packet size as it was. -/
theorem send_steady (steady : SteadySize σ) (request : Request) (size : Nat) :
    (send request).Guards (fun transport : σ ↦ Transport.packetSize transport = size)
      fun _ ↦ True := by
  have sized {α : Type} {action : Action σ TransportError α}
      (keeps : action.Keeps (fun transport ↦ Transport.packetSize transport = size)
        fun transport ↦ Transport.packetSize transport = size) :
      (action.mapError ExchangeError.transport).Guards
        (fun transport ↦ Transport.packetSize transport = size) fun _ ↦ True :=
    Action.Guards.mapError fun transport isSize ↦ (keeps transport isSize).imp
      (fun _ _ kept ↦ kept) fun _ _ kept ↦ ⟨trivial, kept⟩
  have decided {α : Type} (result : Except FramingError α) :
      ((Action.ofExcept result).mapError ExchangeError.framing).Guards
        (fun transport : σ ↦ Transport.packetSize transport = size) fun _ ↦ True :=
    Action.Guards.mapError (guards_ofExcept fun _ _ ↦ trivial)
  refine Action.Guards.mapError (guards_get_bind fun start _ ↦ (decided _).bind fun frame ↦
    (sized (steady.write frame size)).bind fun _ ↦ guards_ite (fun _ ↦ ?_) fun _ ↦ decided _)
  exact guards_get_bind fun next _ ↦ (sized (steady.read size)).bind fun _ ↦ decided _

end Probe

/-- An exchange leaves the packet size as it was. -/
theorem SteadySize.turn (steady : SteadySize σ) {turn : Turn} {before next : σ}
    (leads : turn.Leads before next) :
    Transport.packetSize next = Transport.packetSize before := by
  have same : ((Probe.send turn.request).outcome before).2 = next := by
    unfold Probe.send Action.mapError
    rw [Action.outcome_ofFun, leads.2]
    cases turn.result <;> rfl
  rw [← same]
  exact (Probe.send_steady steady turn.request _).left rfl

/-- Exchanges leave the packet size as it was. -/
theorem SteadySize.turns (steady : SteadySize σ) {turns : List Turn} {before next : σ}
    (conversation : Conversation before (turns.map .turn) next) :
    Transport.packetSize next = Transport.packetSize before := by
  induction turns generalizing before with
  | nil =>
    cases conversation
    rfl
  | cons turn rest ih =>
    cases conversation with
    | turn leads later => exact (ih later).trans (steady.turn leads)

/-- The regime of packets of one size: transfers that are put to the probe are encoded, and none
fails because its frame is too large. -/
def Regime.ofSize (steady : SteadySize σ) (size : Nat) : Regime σ where
  admits request := ∀ transfer, request = .transfer transfer → (request.encode size).isOk = true
  holds transport := Transport.packetSize transport = size
  expects error := error.isOversized = false
  send := by
    rintro request encoded transport rfl
    have kept := Probe.send_steady steady request (Transport.packetSize transport) transport rfl
    have fails : (Probe.send request).Yields transport (fun _ _ ↦ True)
        fun error _ ↦ error.isOversized = false := by
      by_cases isTransfer : request.command = .transfer
      · cases request with
        | transfer transfer => exact Probe.transfer_unoversized (encoded transfer rfl)
        | _ => nomatch isTransfer
      · exact (Probe.send_unoversized request isTransfer transport trivial).imp
          (fun _ _ _ ↦ trivial) fun _ _ ⟨isOther, _⟩ ↦ isOther
    exact (kept.and fails).imp (fun _ _ both ↦ both.1) fun _ _ ⟨⟨_, kept⟩, isOther⟩ ↦
      ⟨isOther, kept⟩
  drain transport isSize := (steady.drain transport).trans isSize
  ordinary := by
    rintro request isOrdinary transfer rfl
    nomatch isOrdinary
  fitting := by
    rintro transport entries rfl room dapIndex transfer -
    rw [(Batch.travels_of_fits room dapIndex).encoded]
    rfl
  usual := fun _ isOther ↦ isOther

namespace Simulator

private theorem sized_ite {size : Nat} {condition : Prop} [Decidable condition]
    {yes no : Option Bytes × Simulator} (onYes : yes.2.packetSize = size)
    (onNo : no.2.packetSize = size) : (if condition then yes else no).2.packetSize = size := by
  split
  · exact onYes
  · exact onNo

private theorem packetSize_respond (simulator : Simulator) (code : UInt8) (body : Bytes) :
    (simulator.respond code body).2.packetSize = simulator.packetSize := by
  unfold respond
  repeat' refine sized_ite ?_ ?_
  all_goals rfl

private theorem packetSize_receive (frame : Bytes) (simulator : Simulator) :
    (simulator.receive frame).packetSize = simulator.packetSize := by
  have kept := packetSize_respond { simulator with codes := simulator.codes.push (frame.byteAt 0) }
    (frame.byteAt 0) (frame.drop 1)
  unfold receive
  dsimp only
  split
  · rfl
  · split
    · next after answered =>
      rw [answered] at kept
      exact kept
    · next answer after answered =>
      rw [answered] at kept
      split
      · exact kept
      · exact kept

/-- A simulated probe changes its packet size only where that is set. -/
theorem steadySize : SteadySize Simulator where
  write frame size simulator isSize := (packetSize_receive frame simulator).trans isSize
  read size simulator isSize := by
    simp only [Transport.read]
    unfold Action.Yields
    rw [Action.outcome_ofFun]
    cases simulator.pending with
    | nil => exact isSize
    | cons answer rest => exact isSize
  drain := fun _ ↦ rfl

/-- A simulated probe keeps the packet size that was set. -/
theorem lastingSize : LastingSize Simulator where
  toSteadySize := steadySize
  resize _ _ := rfl

end Simulator

end DebugProbe
