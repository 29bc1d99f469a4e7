import DebugProbe.Proofs.Memory.Steps
import DebugProbe.Proofs.Session.Progress
import DebugProbe.Proofs.Session.Steps
import DebugProbe.Proofs.Simulator.Patient
import DebugProbe.Proofs.Simulator.Port

/-!
# Memory accesses

Reading memory gives the bytes that are there, writing memory puts the data there and nothing else
anywhere, for all alignments, packet sizes and ways in which the target answers.
-/

namespace DebugProbe

variable {σ τ : Type} [Transport σ]

/-- A session between operations: it is connected, no access waits, nothing has to be put right, and
what it believes of SELECT is true. -/
structure Session.AtRest (select : τ → UInt32) (view : σ → τ) (ready : σ → Prop)
    (session : Session σ) : Prop where
  free : Link.Free select view ready session.link
  clear : session.Clear

namespace Session

variable {model : TargetModel τ} {select : τ → UInt32} {view : σ → τ} {ready : σ → Prop}
  {session : Session σ}

/-- A session stays at rest while its link performs accesses. -/
theorem AtRest.after (atRest : session.AtRest select view ready) {link : Link σ}
    {accesses : List RegisterAccess} {words : List (Option UInt32)}
    (did : Link.Did model select view ready session.link accesses words link) :
    ({ session with link } : Session σ).AtRest select view ready := by
  refine ⟨did.free, ?_, ?_, ?_⟩
  · show link.state.isConnected = true
    rw [did.state]
    exact atRest.clear.connected
  · show link.state.stickyError = false
    rw [did.state]
    exact atRest.clear.sticky
  · show link.state.lineResetPending = false
    rw [did.state]
    exact atRest.clear.pending

omit [Transport σ] in
/-- Accesses can go out over the link of a connected session. -/
theorem Clear.active (clear : session.Clear) : session.link.state.isActive = true :=
  LinkState.isActive_of_isConnected clear.connected

end Session

namespace TruthfulProbe

variable {model : TargetModel τ} {select : τ → UInt32} {view : σ → τ} {ready broken : σ → Prop}
  {observe : τ → PortState}

/-- What a read of memory gives. -/
private theorem readMemory_spans (probe : TruthfulProbe model view ready broken)
    (session : Session σ) (target : MemoryTarget model session.memoryPort select observe)
    (atRest : session.AtRest select view ready) (address : UInt32) (size : Nat) :
    (Session.readMemory address size).Yields session
      (fun bytes next ↦
        bytes = (observe (view session.link.transport)).memory.bytes address.toNat size ∧
        (observe (view next.link.transport)).memory =
          (observe (view session.link.transport)).memory)
      (fun _ _ ↦ True) := by
  unfold Session.readMemory
  rw [Session.yields_operate, Action.yields_bind, Session.yields_prepare atRest.clear,
    Action.yields_bind, Action.yields_get, Session.yields_onLink]
  refine (probe.readSpans target.tracks session.config.transfer session.memoryPort _
    atRest.free).imp ?_ (fun _ _ _ ↦ trivial)
  rintro bytes link ⟨trace, found, takes, did, rfl⟩
  obtain ⟨same, bytes⟩ :=
    target.reads_spans (MemorySpan.tiles_plan address size) takes did.performed
  rw [Nat.add_sub_cancel_left] at bytes
  exact ⟨bytes, same⟩

/-- A read of memory does not fail if packets have room and the target answers in time. -/
private theorem readMemory_completes (probe : TruthfulProbe model view ready broken)
    (session : Session σ) (tracks : model.TracksSelect select) {waits : Port × UInt8 → τ → Nat}
    (patient : model.Patient (Link.waitLimit session.config.transfer) waits)
    (atRest : session.AtRest select view ready)
    (room : 23 ≤ Transport.packetSize session.link.transport) (address : UInt32) (size : Nat) :
    (Session.readMemory address size).Yields session (fun _ _ ↦ True) (fun _ _ ↦ False) := by
  unfold Session.readMemory
  rw [Session.yields_operate, Action.yields_bind, Session.yields_prepare atRest.clear,
    Action.yields_bind, Action.yields_get, Session.yields_onLink]
  exact probe.readSpans_completes tracks patient session.memoryPort _ atRest.free
    ⟨atRest.clear.active, atRest.clear.sticky, room⟩

/-- Reading memory gives the bytes that are there, the last one before the first one where the
addresses wrap, and changes none of them. It does not fail if packets have room and the target
answers in time. -/
theorem readMemory_gives_memory (probe : TruthfulProbe model view ready broken)
    (session : Session σ) (target : MemoryTarget model session.memoryPort select observe)
    (atRest : session.AtRest select view ready) (address : UInt32) (size : Nat) :
    (Session.readMemory address size).Yields session
        (fun bytes next ↦ bytes.length = size ∧
          (∀ position < size, bytes[position]? = some
            ((observe (view session.link.transport)).memory (address + UInt32.ofNat position))) ∧
          (observe (view next.link.transport)).memory =
            (observe (view session.link.transport)).memory)
        (fun _ _ ↦ True) ∧
      ∀ waits, model.Patient (Link.waitLimit session.config.transfer) waits →
        23 ≤ Transport.packetSize session.link.transport →
        ∃ bytes next, (Session.readMemory address size).outcome session = (.ok bytes, next) := by
  constructor
  · refine (probe.readMemory_spans session target atRest address size).imp ?_ (fun _ _ _ ↦ trivial)
    rintro bytes next ⟨rfl, same⟩
    refine ⟨Contents.length_bytes _ _ _, fun position less ↦ ?_, same⟩
    have place : UInt32.ofNat (address.toNat + position) = address + UInt32.ofNat position := by
      rw [UInt32.ofNat_add, UInt32.ofNat_toNat]
    rw [Contents.getElem?_bytes _ _ less, place]
  · intro waits patient room
    obtain ⟨bytes, next, outcome, -⟩ :=
      (probe.readMemory_completes session target.tracks patient atRest room address size).exists_ok
    exact ⟨bytes, next, outcome⟩

/-- A session with a simulated target that lets a few accesses wait. -/
private def waitingSession : Session Simulator where
  link := {
    transport := { target := {
      memory := ({} : Memory).setBytes 0x3FD [1, 2, 3, 4, 5, 6, 7]
      answers := [.wait, .ok, .ok, .wait, .wait, .ok, .wait] } }
    state := { status := .connected .swd } }

private theorem atRest_waitingSession :
    waitingSession.AtRest Target.select Simulator.target (Simulator.Calm 16) where
  free := ⟨⟨⟨rfl, rfl, rfl⟩, rfl, by decide, by decide⟩, rfl, nofun⟩
  clear := ⟨rfl, rfl, rfl⟩

private theorem hasMemoryPort_calm :
    MemoryTarget (Target.calmModel 16) waitingSession.memoryPort Target.select Target.portState :=
  Target.hasMemoryPort.restrict id And.left

/-- Bytes on both sides of a window of the address register are read, although the target waits. -/
theorem readMemory_gives_memory_waitingSession :
    waitingSession.AtRest Target.select Simulator.target (Simulator.Calm 16) ∧
      ∃ bytes next, (Session.readMemory 0x3FD 7).outcome waitingSession = (.ok bytes, next) ∧
        bytes.length = 7 ∧
        (∀ position < 7, bytes[position]? =
          some (waitingSession.link.transport.target.memory.byte
            (0x3FD + UInt32.ofNat position))) ∧
        next.link.transport.target.memory.byte =
          waitingSession.link.transport.target.memory.byte := by
  have reads := (Simulator.truthful_calm 16).readMemory_gives_memory waitingSession
    hasMemoryPort_calm atRest_waitingSession 0x3FD 7
  obtain ⟨gives, completes⟩ := reads
  obtain ⟨bytes, next, outcome⟩ := completes _ (Target.patient 16) (by decide)
  exact ⟨atRest_waitingSession, bytes, next, outcome, gives.of_ok outcome⟩

/-- What a write of memory does. -/
private theorem writeMemory_spans (probe : TruthfulProbe model view ready broken)
    (session : Session σ) (target : MemoryTarget model session.memoryPort select observe)
    (atRest : session.AtRest select view ready)
    (drains : ∀ transport : σ, view (Transport.drain transport) = view transport)
    (address : UInt32) {data : Bytes} (fits : address.toNat + data.length ≤ UInt32.size) :
    (Session.writeMemory address data).Yields session
      (fun _ next ↦ ∃ link, next = { session with link } ∧ next.AtRest select view ready ∧
        Transport.packetSize link.transport = Transport.packetSize session.link.transport ∧
        (observe (view link.transport)).memory =
          (observe (view session.link.transport)).memory.overlay address.toNat data)
      (fun _ next ↦ ∃ written, written <+: data ∧
        (observe (view next.link.transport)).memory =
          (observe (view session.link.transport)).memory.overlay address.toNat written) := by
  have tiles := MemorySpan.tiles_plan address data.length
  unfold Session.writeMemory
  rw [Session.yields_operate, Action.yields_bind, Session.yields_prepare atRest.clear,
    Action.yields_bind, Action.yields_get, Session.yields_onLink]
  refine (probe.writeSpans target.tracks session.config.transfer session.memoryPort _ data
    atRest.free).imp ?_ ?_
  · rintro _ link ⟨trace, found, takes, did⟩
    obtain ⟨written, -, laid, whole⟩ :=
      target.writes_spans tiles rfl fits takes List.prefix_rfl did.performed
    obtain rfl := whole rfl
    exact ⟨link, rfl, atRest.after did, did.packetSize, laid⟩
  · rintro error link ⟨trace, takes, stopped⟩
    obtain ⟨part, found, before, performed⟩ := stopped.performed
    obtain ⟨written, some, laid, -⟩ :=
      target.writes_spans tiles rfl fits takes before performed
    have same : view (Session.afterFailure error.isBroken { session with link }).link.transport =
        view link.transport := by
      unfold Session.afterFailure
      split
      · exact drains link.transport
      · rfl
    exact ⟨written, some, by rw [same]; exact laid⟩

/-- A write of memory does not fail if packets have room and the target answers in time. -/
private theorem writeMemory_completes (probe : TruthfulProbe model view ready broken)
    (session : Session σ) (tracks : model.TracksSelect select) {waits : Port × UInt8 → τ → Nat}
    (patient : model.Patient (Link.waitLimit session.config.transfer) waits)
    (atRest : session.AtRest select view ready)
    (room : 23 ≤ Transport.packetSize session.link.transport) (address : UInt32) (data : Bytes) :
    (Session.writeMemory address data).Yields session (fun _ _ ↦ True) (fun _ _ ↦ False) := by
  unfold Session.writeMemory
  rw [Session.yields_operate, Action.yields_bind, Session.yields_prepare atRest.clear,
    Action.yields_bind, Action.yields_get, Session.yields_onLink]
  exact probe.writeSpans_completes tracks patient session.memoryPort _ data atRest.free
    ⟨atRest.clear.active, atRest.clear.sticky, room⟩

/-- Writing memory lays the data over it and changes no other byte; a write that fails has laid a
prefix of the data over the memory. Data that was written is read back. Neither the write nor the
read fails if packets have room and the target answers in time. -/
theorem writeMemory_lays_data (probe : TruthfulProbe model view ready broken)
    (session : Session σ) (target : MemoryTarget model session.memoryPort select observe)
    (atRest : session.AtRest select view ready)
    (drains : ∀ transport : σ, view (Transport.drain transport) = view transport)
    (address : UInt32) {data : Bytes} (fits : address.toNat + data.length ≤ UInt32.size) :
    (Session.writeMemory address data).Yields session
        (fun _ next ↦
          (observe (view next.link.transport)).memory =
            (observe (view session.link.transport)).memory.overlay address.toNat data ∧
          (Session.readMemory address data.length).Yields next
            (fun bytes _ ↦ bytes = data) (fun _ _ ↦ True))
        (fun _ next ↦ ∃ written, written <+: data ∧
          (observe (view next.link.transport)).memory =
            (observe (view session.link.transport)).memory.overlay address.toNat written) ∧
      ∀ waits, model.Patient (Link.waitLimit session.config.transfer) waits →
        23 ≤ Transport.packetSize session.link.transport →
        ∃ next last, (Session.writeMemory address data).outcome session = (.ok (), next) ∧
          (Session.readMemory address data.length).outcome next = (.ok data, last) := by
  have writes := probe.writeMemory_spans session target atRest drains address fits
  have returns (link : Link σ) (again : Session.AtRest select view ready { session with link })
      (laid : (observe (view link.transport)).memory =
        (observe (view session.link.transport)).memory.overlay address.toNat data) :
      (Session.readMemory address data.length).Yields { session with link }
        (fun bytes _ ↦ bytes = data) (fun _ _ ↦ True) := by
    have back := probe.readMemory_spans { session with link } target again address data.length
    rw [laid, Contents.bytes_overlay _ fits] at back
    exact back.imp (fun _ _ both ↦ both.1) (fun _ _ _ ↦ trivial)
  constructor
  · refine writes.imp ?_ (fun _ _ failed ↦ failed)
    rintro _ _ ⟨link, rfl, again, -, laid⟩
    exact ⟨laid, returns link again laid⟩
  · intro waits patient room
    obtain ⟨_, next, written, -⟩ := (probe.writeMemory_completes session target.tracks patient
      atRest room address data).exists_ok
    obtain ⟨link, rfl, again, size, laid⟩ := writes.of_ok written
    obtain ⟨bytes, last, found, -⟩ := (probe.readMemory_completes { session with link }
      target.tracks patient again (by rw [size]; exact room) address data.length).exists_ok
    obtain rfl := (returns link again laid).of_ok found
    exact ⟨_, last, written, found⟩

/-- Bytes on both sides of a window of the address register are written and read back, although the
target waits. -/
theorem writeMemory_lays_data_waitingSession :
    waitingSession.AtRest Target.select Simulator.target (Simulator.Calm 16) ∧
      ∃ next last, (Session.writeMemory 0x3FE [8, 9, 10, 11, 12]).outcome waitingSession =
          (.ok (), next) ∧
        next.link.transport.target.memory.byte =
          Contents.overlay waitingSession.link.transport.target.memory.byte 0x3FE
            [8, 9, 10, 11, 12] ∧
        (Session.readMemory 0x3FE 5).outcome next = (.ok [8, 9, 10, 11, 12], last) := by
  have writes := (Simulator.truthful_calm 16).writeMemory_lays_data waitingSession
    hasMemoryPort_calm atRest_waitingSession (fun _ ↦ rfl) 0x3FE
    (by decide : (0x3FE : UInt32).toNat + ([8, 9, 10, 11, 12] : Bytes).length ≤ UInt32.size)
  obtain ⟨lays, completes⟩ := writes
  obtain ⟨next, last, written, found⟩ := completes _ (Target.patient 16) (by decide)
  exact ⟨atRest_waitingSession, next, last, written, (lays.of_ok written).1, found⟩

end TruthfulProbe

end DebugProbe
