import DebugProbe.Proofs.Session.Barred
import DebugProbe.Proofs.Session.Invariant

/-!
# Sticky errors stand in the way

Where sticky errors are left to the caller, every access fails at once and leaves the session as it
is, until the caller has them cleared or gives the connection up. Only an answer that tells of a
fault raises them.
-/

namespace DebugProbe

variable {σ : Type} [Transport σ]

namespace Session

omit [Transport σ] in
/-- Sticky errors have to be cleared, and that is left to the caller. -/
structure Held (session : Session σ) : Prop where
  connected : session.link.state.isConnected = true
  sticky : session.link.state.stickyError = true
  manual : session.config.session.autoClearSticky = false

section Gate

variable {session : Session σ}

variable (held : session.Held) (sound : session.Sound)
include held sound

omit [Transport σ] in
/-- No access waits where sticky errors have to be cleared. -/
theorem Held.batch : session.link.batch = {} := by
  rcases sound.batch with none | loaded
  · exact none
  · exact absurd held.sticky (by simp [loaded.sticky])

omit [Transport σ] in
/-- Sticky errors bar all accesses. -/
theorem Held.barred : session.Barred .stickyErrorPending :=
  ⟨held.connected, sound.exclusive held.sticky, fun _ ↦ held.manual,
    .sticky (LinkState.isActive_of_isConnected held.connected) held.sticky (held.batch sound)⟩

/-- A batch can neither be begun nor sent. -/
private theorem Held.refuses_queue (access : RegisterAccess) :
    session.Refuses .stickyErrorPending (do
      if (← get).link.batch.isEmpty then prepare
      let packetSize ← onProbe Probe.packetSize
      onLink (Link.queue packetSize access)) := by
  have none : session.link.batch.isEmpty = true := by
    rw [held.batch sound]
    rfl
  have queueing : session.Refuses .stickyErrorPending (onProbe Probe.packetSize >>= fun packetSize ↦
      onLink (Link.queue packetSize access)) := by
    unfold Refuses
    rw [Action.yields_bind, yields_onProbe]
    exact refuses_onLink
      (Link.queue_refuses (LinkState.isActive_of_isConnected held.connected) held.sticky _ access)
  unfold Refuses
  rw [Action.yields_bind, Action.yields_get, if_pos none]
  exact (held.barred sound).refuses_prepare queueing

private theorem Held.refuses_flush :
    session.Refuses .stickyErrorPending (do onLink (Link.flush (← get).config.transfer)) := by
  have same : session.link.discard = session.link := by
    show ({ session.link with batch := {} } : Link σ) = session.link
    rw [← held.batch sound]
  unfold Refuses
  rw [Action.yields_bind, Action.yields_get]
  refine refuses_onLink ?_
  unfold Link.flush Link.Refuses
  simp only [Action.yields_bind, Action.yields_get, Action.yields_update, same]
  rw [Link.yields_checkReady]
  have active := LinkState.isActive_of_isConnected held.connected
  exact ⟨by simp [active], fun _ _ ↦ ⟨rfl, rfl⟩, by simp [held.sticky]⟩

/-- Every access is refused because of the sticky errors. -/
theorem Held.refuses_access {call : SessionCall} {operation : Operation}
    (asks : call.access? = some operation) :
    session.Refuses (.operation ⟨operation, .stickyErrorPending⟩) call.action := by
  rcases SessionCall.direct_of_access asks with direct | ⟨access, rfl, rfl⟩ | ⟨rfl, rfl⟩
  · exact (held.barred sound).refuses_direct direct
  · exact (held.refuses_queue sound access).whole rfl _
  · exact (held.refuses_flush sound).whole rfl _

end Gate

section Lasting

variable {α : Type} {session : Session σ}

omit [Transport σ] in
/-- Sticky errors still have to be cleared, or the connection is over. -/
def Lasts (session : Session σ) : Prop :=
  session.link.state.stickyError = true ∨ session.link.state.status = .disconnected

/-- A broken exchange ends the connection. -/
theorem lasts_afterFailure (sticky : session.link.state.stickyError = true) (broken : Bool) :
    (session.afterFailure broken).Lasts := by
  cases broken with
  | true => exact .inr rfl
  | false => exact .inl sticky

/-- An operation that leaves sticky errors alone does so whatever becomes of it. -/
private theorem whole_lasts {action : Action (Session σ) AccessError α}
    (keeps : action.Yields session (fun _ next ↦ next.link.state.stickyError = true)
      (fun _ next ↦ next.link.state.stickyError = true)) (operation : Operation) :
    (whole (operate operation action)).Yields session (fun _ next ↦ next.Lasts)
      (fun _ next ↦ next.Lasts) := by
  rw [yields_whole]
  exact keeps.imp (fun _ _ sticky ↦ .inl sticky) fun _ _ sticky ↦ lasts_afterFailure sticky _

/-- An access leaves sticky errors alone, even if it is not valid or asks for nothing. -/
private theorem Held.access_lasts (held : session.Held) (sound : session.Sound)
    {action : Action (Session σ) AccessError α} (heeds : session.Heeds action)
    (operation : Operation) :
    (whole (operate operation (prepare >>= fun _ ↦ action))).Yields session
      (fun _ next ↦ next.Lasts) (fun _ next ↦ next.Lasts) := by
  refine whole_lasts ?_ operation
  have barred := held.barred sound
  rw [Action.yields_bind, barred.yields_prepare]
  refine (heeds.blocked _ barred.blocked).imp ?_ ?_
  · rintro _ _ rfl
    exact held.sticky
  · rintro _ _ rfl
    exact held.sticky

/-- To drop the batch is not to clear sticky errors. -/
private theorem abortTransfer_lasts (sticky : session.link.state.stickyError = true) :
    (whole abortTransfer).Yields session (fun _ next ↦ next.Lasts) (fun _ next ↦ next.Lasts) := by
  refine whole_lasts ?_ _
  unfold Link.abortTransfer
  simp only [Action.yields_bind, Action.yields_attempt, yields_onLink, Action.yields_update,
    Link.yields_command, Action.yields_ofExcept]
  exact Action.yields_iff.mpr ⟨fun _ _ _ ↦ sticky, fun _ _ _ ↦ sticky⟩

/-- Sticky errors are cleared by a call whose write of ABORT the probe accepted. -/
def Clears (session : Session σ) (call : SessionCall) (next : Session σ) : Prop :=
  call = .call .clearStickyErrors ∧
    ∃ turn : Turn, turn.request = .writeAbort session.link.state.dapIndex 0x1E ∧ turn.Accepted ∧
      Conversation session.link.transport [.turn turn] next.link.transport

private theorem clearStickyErrors_lasts (held : session.Held) :
    (whole clearStickyErrors).Yields session
      (fun _ next ↦ next.Lasts ∨ session.Clears (.call .clearStickyErrors) next ∨
        ∃ hint, SessionCall.call .clearStickyErrors = .call (.connect hint))
      (fun _ next ↦ next.Lasts ∨ session.Clears (.call .clearStickyErrors) next ∨
        ∃ hint, SessionCall.call .clearStickyErrors = .call (.connect hint)) := by
  unfold clearStickyErrors
  rw [yields_whole, yields_onLink]
  refine (yields_clearing (LinkState.isActive_of_isConnected held.connected)).imp ?_ ?_
  · rintro _ _ ⟨turns, transport, follow, conversation, rfl⟩
    obtain ⟨turn, rfl, clears, accepted⟩ := follow.exists_turn
    exact .inr (.inl ⟨rfl, turn, clears, accepted, conversation⟩)
  · rintro error _ ⟨turns, transport, take, conversation, rfl⟩
    exact .inl (@lasts_afterFailure σ _ { session with link.transport := transport } held.sticky _)

/-- Sticky errors last until they are cleared or the connection is over. -/
theorem Held.lasts (held : session.Held) (sound : session.Sound) (call : SessionCall) :
    call.action.Yields session
      (fun _ next ↦ next.Lasts ∨ session.Clears call next ∨ ∃ hint, call = .call (.connect hint))
      (fun _ next ↦ next.Lasts ∨ session.Clears call next ∨
        ∃ hint, call = .call (.connect hint)) := by
  have lasting (lasts : call.action.Yields session (fun _ next ↦ next.Lasts)
      (fun _ next ↦ next.Lasts)) :
      call.action.Yields session
        (fun _ next ↦ next.Lasts ∨ session.Clears call next ∨ ∃ hint, call = .call (.connect hint))
        (fun _ next ↦ next.Lasts ∨ session.Clears call next ∨
          ∃ hint, call = .call (.connect hint)) :=
    lasts.imp (fun _ _ ↦ .inl) fun _ _ ↦ .inl
  have refused {operation : Operation} (asks : call.access? = some operation) :
      call.action.Yields session (fun _ next ↦ next.Lasts) (fun _ next ↦ next.Lasts) := by
    refine (held.refuses_access sound asks).imp (fun _ _ never ↦ never.elim) ?_
    rintro _ _ ⟨-, rfl⟩
    exact .inl held.sticky
  have commanded (isAside : call.isAside = true) :
      call.action.Yields session (fun _ next ↦ next.Lasts) (fun _ next ↦ next.Lasts) := by
    refine (speaks_call isAside).imp ?_ ?_
    · rintro _ _ ⟨deeds, transport, clock, capabilities, asked, rfl⟩
      exact .inl held.sticky
    · rintro error _ ⟨deeds, last, ⟨transport, clock, capabilities, asked, same⟩, rfl⟩
      refine lasts_afterFailure ?_ error.isBroken
      rw [same]
      exact held.sticky
  cases call with
  | call asked =>
    cases asked with
    | connect hint => exact Action.yields_iff.mpr ⟨fun _ _ _ ↦ .inr (.inr ⟨hint, rfl⟩),
        fun _ _ _ ↦ .inr (.inr ⟨hint, rfl⟩)⟩
    | disconnect =>
      refine lasting ((disconnect_parts sound.blank).imp ?_ ?_)
      · rintro _ next ⟨deeds, parts⟩
        exact .inr (by rw [parts.blank.state])
      · rintro _ next ⟨deeds, parts⟩
        exact .inr (by rw [parts.blank.state])
    | readDp address =>
      exact lasting (held.access_lasts sound (heeds_get_bind fun _ ↦ heeds_read _ _) _)
    | writeDp address value =>
      exact lasting (held.access_lasts sound (heeds_get_bind fun _ ↦ heeds_write _ _ value) _)
    | readAp address =>
      exact lasting (held.access_lasts sound (heeds_get_bind fun _ ↦ heeds_read _ _) _)
    | writeAp address value =>
      exact lasting (held.access_lasts sound (heeds_get_bind fun _ ↦ heeds_write _ _ value) _)
    | readMemory address size =>
      exact lasting (held.access_lasts sound (heeds_get_bind fun _ ↦ heeds_readSpans _ _ _) _)
    | writeMemory address data =>
      exact lasting (held.access_lasts sound (heeds_get_bind fun _ ↦ heeds_writeSpans _ _ _ data) _)
    | queue access => exact lasting (refused rfl)
    | flush => exact lasting (refused rfl)
    | clearStickyErrors => exact clearStickyErrors_lasts held
    | abortTransfer => exact lasting (abortTransfer_lasts held.sticky)
  | _ => exact lasting (commanded rfl)

end Lasting

section Raising

variable {session next : Session σ} {deeds : List Deed} {failure : Option AccessError}

omit [Transport σ] in
/-- The deeds end with an answer that tells of a fault. -/
def Faulted (deeds : List Deed) : Prop :=
  ∃ turn status, deeds.getLast? = some (.turn turn) ∧ turn.status? = some status ∧ status.IsFault

/-- Accesses raise sticky errors only by a fault. -/
private theorem faulted_of_marked {before after : LinkState} {turns : List Turn}
    (marked : before.Marked turns after) (clear : before.stickyError = false)
    (sticky : after.stickyError = true) (early : List Turn) :
    Faulted ((early ++ turns).map .turn) := by
  cases marked with
  | calm cache => simp [clear] at sticky
  | fault last answered isFault =>
    refine ⟨_, _, ?_, answered, isFault⟩
    rw [List.getLast?_map, List.getLast?_append, last]
    rfl
  | silent => simp [clear] at sticky

/-- Only a fault raises sticky errors. -/
theorem Course.faulted (sound : session.Sound) (course : session.Course failure deeds next)
    (clear : session.link.state.stickyError = false)
    (sticky : next.link.state.stickyError = true) : Faulted deeds := by
  cases course with
  | wake none woke full =>
    obtain ⟨woken, -, went, -⟩ := woke.read
    exact faulted_of_marked went.state clear sticky _
  | access connected prepared accessed =>
    obtain ⟨quiet, -⟩ := prepared.quiet sound
    cases accessed with
    | went went => exact faulted_of_marked went.state quiet.sticky sticky _
    | queued active built => simp [quiet.sticky] at sticky
  | send loaded went => exact faulted_of_marked went.state loaded.sticky sticky []
  | _ => simp [clear] at sticky

/-- A step raises sticky errors only by an answer that tells of a fault. -/
theorem Step.faulted (step : session.Step failure deeds next) (sound : session.Sound)
    (clear : session.link.state.stickyError = false)
    (sticky : next.link.state.stickyError = true) : Faulted deeds := by
  cases step with
  | kept course unbroken => exact course.faulted sound clear sticky
  | lost course broken => nomatch sticky
  | parted parts =>
    rw [parts.blank.state] at sticky
    nomatch sticky
  | connected parts succeeds => simp [succeeds.quiet.sticky] at sticky
  | unconnected parts fails =>
    rw [fails.blank.state] at sticky
    nomatch sticky

end Raising

/-- Where sticky errors have to be cleared by the caller, every access fails and leaves the session
as it is, through any number of them. Other calls leave the errors in place, unless they have them
cleared or end the connection; and no call raises them but by an answer that tells of a fault. -/
theorem Reached.sticky_gate {session : Session (Recorded σ)} (reached : session.Reached) :
    (session.Held →
      (∀ (call : SessionCall) (operation : Operation), call.access? = some operation →
        call.action.outcome session =
          (.error (.operation ⟨operation, .stickyErrorPending⟩), session)) ∧
      (∀ calls : List SessionCall, (∀ call ∈ calls, call.access?.isSome = true) →
        session.after calls = session) ∧
      ∀ call : SessionCall, (session.after [call]).Lasts ∨
        session.Clears call (session.after [call]) ∨ ∃ hint, call = .call (.connect hint)) ∧
    ∀ call : SessionCall, session.link.state.stickyError = false →
      (session.after [call]).link.state.stickyError = true →
      ∃ deeds, session.link.transport.Saw deeds (session.after [call]).link.transport ∧
        Faulted deeds := by
  have sound := reached.sound
  refine ⟨fun held ↦ ?_, fun call clear sticky ↦ ?_⟩
  · have refused (call : SessionCall) (operation : Operation)
        (asks : call.access? = some operation) :
        call.action.outcome session =
          (.error (.operation ⟨operation, .stickyErrorPending⟩), session) :=
      (held.refuses_access sound asks).outcome
    refine ⟨refused, fun calls accesses ↦ ?_, fun call ↦ (held.lasts sound call).left⟩
    induction calls with
    | nil => rfl
    | cons call rest ih =>
      obtain ⟨operation, asks⟩ := Option.isSome_iff_exists.mp (accesses call List.mem_cons_self)
      show ((call.action.outcome session).2).after rest = session
      rw [refused call operation asks]
      exact ih fun other member ↦ accesses other (List.mem_cons_of_mem call member)
  · obtain ⟨deeds, step⟩ := sound.exists_step call
    exact ⟨deeds, step.conversation.saw, step.faulted sound clear sticky⟩

/-- A session over a simulated probe whose target will answer a read with a fault. -/
private def faultless : Session (Recorded Simulator) :=
  .new { inner := { target := { answers := [.ok, .fault] } } } { session := { powerUp := false } }

/-- A session whose target answered a read with a fault. -/
private def faulty : Session (Recorded Simulator) :=
  faultless.after [.call (.connect none), .call (.readDp 4)]

private theorem held_faulty : faulty.Held := by
  constructor <;> decide +kernel

/-- After a fault a write to memory fails, and so do others after it. -/
theorem Reached.sticky_gate_faulty :
    faulty.Reached ∧ faulty.Held ∧
      (SessionCall.call (.writeMemory 0 [1])).action.outcome faulty =
        (.error (.operation ⟨.writeMemory 0 1, .stickyErrorPending⟩), faulty) := by
  have fresh : faultless.Reached := .new _ _
  have reached : faulty.Reached := fresh.after _
  exact ⟨reached, held_faulty, (reached.sticky_gate.1 held_faulty).1 _ _ rfl⟩

end Session

end DebugProbe
