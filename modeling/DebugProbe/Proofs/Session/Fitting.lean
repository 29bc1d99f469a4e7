import DebugProbe.Proofs.Probe.Sized
import DebugProbe.Proofs.Session.Anchored

/-!
# Waiting accesses fit into packets

What waits in the batch of a session was found to fit into a packet when it was queued. It still
does when it is sent, in whole or in part, over a transport whose packet size changes only where it
is set: the size is set by the query of the capabilities alone, and no access waits then. So no
transfer of a session ever fails because its frame is too large, and what was read to connect can be
read again for as long as the connection lasts.
-/

namespace DebugProbe

open DebugProbe.Session (Within)

variable {σ : Type} [Transport σ]

namespace Session

variable {session : Session σ} {capabilities : Capabilities}

/-- Whatever is sent of the accesses that wait is encoded for packets of the size in use. -/
def Fitting (session : Session σ) : Prop :=
  ∀ dapIndex request, Link.Sends dapIndex session.link.batch.entries request →
    (request.encode (Transport.packetSize session.link.transport)).isOk = true

theorem fitting_of_empty (none : session.link.batch = {}) : session.Fitting := by
  rintro dapIndex request ⟨part, some, among, -⟩
  rw [none] at among
  exact absurd (List.sublist_nil.mp among) some

/-- Accesses that fit into packets of the size in use are within the regime of that size. -/
private theorem Fitting.within (steady : SteadySize σ) (fitting : session.Fitting) :
    session.Within (.ofSize steady (Transport.packetSize session.link.transport)) (fun _ ↦ True)
      session.config session.capabilities :=
  ⟨⟨rfl, trivial, fun dapIndex request sends _ _ ↦ fitting dapIndex request sends⟩, rfl, rfl⟩

private theorem fitting_of_within {steady : SteadySize σ} {size : Nat}
    {known : LinkState → Prop} {config : Config} {told : Option Capabilities}
    (within : session.Within (.ofSize steady size) known config told) : session.Fitting := by
  have isSize : Transport.packetSize session.link.transport = size := within.link.transport
  intro dapIndex request sends
  obtain ⟨part, -, -, same⟩ := id sends
  rw [isSize]
  exact within.link.batch dapIndex request sends _ same

/-- The call fails only for other reasons than that the frame of a transfer is too large, and what
waits then still fits. -/
private def KeepsFitting (session : Session σ) (call : SessionCall) : Prop :=
  call.action.Yields session (fun _ ↦ Fitting)
    fun error next ↦ error.Bears (·.isOversized = false) ∧ next.Fitting

private theorem keepsFitting_informed (steady : SteadySize σ) (fitting : session.Fitting)
    (told : session.capabilities = some capabilities) (call : SessionCall) :
    session.KeepsFitting call := by
  have within := fitting.within steady
  rw [told] at within
  refine (Regime.informedCall (LinkState.enduring_true _ _ call) session within).imp ?_ ?_
  · exact fun _ _ kept ↦ fitting_of_within kept
  · exact fun _ _ ⟨bears, kept⟩ ↦ ⟨bears, fitting_of_within kept⟩

/-- Where nothing is connected nothing waits, so the packet size may change. -/
private theorem keepsFitting_ignorant (steady : SteadySize σ) (none : session.link.batch = {})
    (closed : session.link.state.isConnected = false) (unknown : session.capabilities = .none)
    (call : SessionCall) : session.KeepsFitting call := by
  cases asks : call.asks with
  | false =>
    have lasting : LinkState.Lasting fun _ ↦ True := ⟨trivial, fun _ _ ↦ trivial⟩
    have within := (fitting_of_empty none).within steady
    refine (Regime.directCall _ lasting asks session within).imp ?_ ?_
    · exact fun _ _ kept ↦ fitting_of_within kept
    · exact fun _ _ ⟨bears, kept⟩ ↦ ⟨bears, fitting_of_within kept⟩
  | true =>
    refine yields_call_asking asks closed ((yields_queryCapabilities_of_unknown unknown).mpr
      ((Probe.queryCapabilities_unoversized _ _ trivial).imp ?_ ?_))
    · intro capabilities transport _
      exact @keepsFitting_informed σ _ (session.informed capabilities transport) capabilities
        steady (fitting_of_empty none) rfl call
    · rintro error transport ⟨isOther, -⟩
      refine ⟨isOther, fitting_of_empty ?_⟩
      cases error.isBroken with
      | true => rfl
      | false => exact none

/-- A session that there can be rests on what it connected with. -/
private theorem Reached.rests (reached : session.Reached) : ∃ config, session.Rests config := by
  induction reached with
  | new transport config => exact ⟨config, rests_new transport config⟩
  | call reached call ih =>
    obtain ⟨config, rests⟩ := ih
    exact ⟨config, rests.step call⟩

private theorem Reached.keepsFitting (steady : SteadySize σ) (reached : session.Reached)
    (fitting : session.Fitting) (call : SessionCall) : session.KeepsFitting call := by
  cases told : session.capabilities with
  | some capabilities => exact keepsFitting_informed steady fitting told call
  | none =>
    obtain ⟨config, rests⟩ := reached.rests
    have closed := rests.closed told
    exact keepsFitting_ignorant steady (reached.sound.blank closed).batch closed told call

/-- What waits in a session that there can be fits into packets of the size in use. -/
private theorem Reached.fitting (steady : SteadySize σ) (reached : session.Reached) :
    session.Fitting := by
  induction reached with
  | new transport config => exact fitting_of_empty rfl
  | @call before reached call ih =>
    have kept := reached.keepsFitting steady ih call
    exact Action.Yields.left (kept.imp (fun _ _ fits ↦ fits) fun _ _ failed ↦ failed.2)

/-- A call of a session that knows its probe leaves the packet size as it was. -/
private theorem Reached.packetSize_call (steady : SteadySize σ) (reached : session.Reached)
    (told : session.capabilities = some capabilities) (call : SessionCall) :
    Transport.packetSize (call.action.outcome session).2.link.transport =
      Transport.packetSize session.link.transport := by
  have within := (reached.fitting steady).within steady
  rw [told] at within
  have kept := (Regime.informedCall (LinkState.enduring_true _ _ call)).left within
  exact kept.link.transport

/-- A connect that leaves a connection read the identification. -/
private theorem room_of_connect (steady : SteadySize σ) (reached : session.Reached)
    (hint : Option WireProtocol) :
    (SessionCall.call (.connect hint)).action.Yields session
      (fun _ next ↦ next.link.state.isConnected = true →
        7 ≤ Transport.packetSize next.link.transport)
      (fun _ next ↦ next.link.state.isConnected = true →
        7 ≤ Transport.packetSize next.link.transport) := by
  refine Action.yields_map.mpr ((connect_parts_connects reached.sound.blank hint).imp ?_ ?_)
  · rintro protocol next ⟨closing, idle, deeds, parts, succeeds⟩ -
    exact succeeds.room steady
  · rintro error next failed connected
    have blank : next.Blank := by
      rcases failed with ⟨closing, parts⟩ | ⟨closing, idle, deeds, parts, fails⟩
      · exact parts.blank
      · exact fails.blank
    rw [blank.state] at connected
    nomatch connected

/-- The answer to the read of a register fits into the packets of a connected session: the
identification was read to connect, and the packet size is set only where nothing is connected. -/
theorem Reached.room (steady : SteadySize σ) (reached : session.Reached)
    (connected : session.link.state.isConnected = true) :
    7 ≤ Transport.packetSize session.link.transport := by
  induction reached with
  | new transport config => nomatch connected
  | @call before reached call ih =>
    by_cases isConnect : ∃ hint, call = .call (.connect hint)
    · obtain ⟨hint, rfl⟩ := isConnect
      exact Action.Yields.left (room_of_connect steady reached hint) connected
    · -- The connection was up before, so the session knows its probe.
      obtain ⟨config, rests⟩ := reached.rests
      obtain ⟨protocol, status⟩ := LinkState.isConnected_iff.mp connected
      have up : before.link.state.isConnected = true :=
        LinkState.isConnected_of_connected
          (connected_before rests (not_exists.mp isConnect) status)
      cases told : before.capabilities with
      | none =>
        rw [rests.closed told] at up
        nomatch up
      | some capabilities =>
        rw [reached.packetSize_call steady told call]
        exact ih up

/-- The limit of a batch is exact. Where accesses may go out, one is queued if and only if the
request for the batch with it is encoded and can be answered in full with packets of the size given,
whatever the position of the debug port, and otherwise nothing changes. So over a transport whose
packet size changes only where it is set, whatever is sent of the accesses that wait in a session is
encoded, and no call ever fails because the frame of a transfer is too large. -/
theorem queued_travels :
    (∀ (link : Link σ) (packetSize : Nat) (access : RegisterAccess),
      link.state.isActive = true → link.state.stickyError = false →
      (Link.queue packetSize access).Yields link
        (fun index next ↦ index = link.batch.requests ∧
          next = { link with batch := link.batch.extended link.state.selectCache access } ∧
          ∀ dapIndex, (TransferRequest.ofEntries dapIndex next.batch.entries).Travels packetSize ∧
            ∀ (data : List (Option UInt32)) (status : UInt8),
              data.map Option.isSome = next.batch.entries.map (·.transfer.isRead) →
              (Frame.report (Request.transfer (.ofEntries dapIndex next.batch.entries)).frame
                data status).length ≤ packetSize)
        (fun error next ↦ error = .batchFull ∧ next = link ∧
          ∀ dapIndex, ¬(TransferRequest.ofEntries dapIndex
            (link.batch.extended link.state.selectCache access).entries).Travels packetSize)) ∧
    (SteadySize σ → ∀ session : Session σ, session.Reached → session.Fitting ∧
      ∀ call : SessionCall, call.action.Yields session (fun _ _ ↦ True)
        fun error _ ↦ error.Bears (·.isOversized = false)) := by
  constructor
  · intro link packetSize access active clear
    refine (Link.yields_queue_travels access active clear).imp ?_ fun _ _ full ↦ full
    rintro index next ⟨position, extended, travels⟩
    refine ⟨position, extended, fun dapIndex ↦ ⟨travels dapIndex, fun data status kinds ↦ ?_⟩⟩
    have same : (TransferRequest.ofEntries dapIndex next.batch.entries).transfers.map
        Transfer.isRead = next.batch.entries.map (·.transfer.isRead) := List.map_map
    exact (travels dapIndex).length_report (kinds.trans same.symm) status
  · intro steady session reached
    have fitting := reached.fitting steady
    refine ⟨fitting, fun call ↦ ?_⟩
    exact (reached.keepsFitting steady fitting call).imp (fun _ _ _ ↦ trivial)
      fun _ _ ⟨bears, _⟩ ↦ bears

/-- A session over a simulated probe with packets of 64 bytes, in which 15 reads wait. -/
@[irreducible] private def filled : Session Simulator :=
  (new {} {}).after (.call (.connect none) ::
    List.replicate 15 (.call (.queue (.read (.debug 0)))))

private theorem full_filled :
    (match ((Link.queue 64 (.read (.debug 0))).outcome filled.link).1 with
      | .ok _ => true
      | .error _ => false) = false := by
  decide +kernel

/-- The answer to 15 reads just fits into a packet of 64 bytes, the one to 16 reads does not. -/
theorem queued_travels_filled :
    filled.Reached ∧ filled.link.batch.requests = 15 ∧ filled.Fitting ∧
      ¬(TransferRequest.ofEntries 0
        (filled.link.batch.extended filled.link.state.selectCache
          (.read (.debug 0))).entries).Travels 64 := by
  have fresh : (new ({} : Simulator) {}).Reached := .new _ _
  have reached : filled.Reached := by
    unfold filled
    exact fresh.after _
  have active : filled.link.state.isActive = true := by decide +kernel
  have clear : filled.link.state.stickyError = false := by decide +kernel
  have queueing := queued_travels.1 filled.link 64 (.read (.debug 0)) active clear
  have full := full_filled
  refine ⟨reached, by decide +kernel, (queued_travels.2 Simulator.steadySize filled reached).1, ?_⟩
  cases outcome : (Link.queue 64 (.read (.debug 0))).outcome filled.link with
  | mk result next =>
    rw [outcome] at full
    cases result with
    | ok index => nomatch full
    | error error => exact ((Action.yields_iff.mp queueing).2 error next outcome).2.2 0

end Session

end DebugProbe
