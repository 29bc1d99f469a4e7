import DebugProbe.Proofs.Session.Connect

/-!
# The invariant of a session

Every call leaves a session in good order, whatever the transport does and whether the call succeeds
or fails. Each operation, connect and disconnect is followed by way of the courses that it can take;
the sessions that there can be are all in good order by induction over the calls.
-/

namespace DebugProbe

variable {σ : Type} [Transport σ]

/-- Why a call fails, if it is an operation that does. -/
def SessionCall.failure? (call : SessionCall) (session : Session σ) : Option AccessError :=
  match (call.action.outcome session).1 with
  | .ok _ => none
  | .error error => error.cause?

/-- Only operations are refused for want of room. -/
theorem SessionCall.exists_operation_of_failure? {call : SessionCall} {session : Session σ}
    (full : call.failure? session = some .batchFull) :
    ∃ operation, (call.action.outcome session).1 = .error (.operation ⟨operation, .batchFull⟩) := by
  unfold SessionCall.failure? at full
  cases result : (call.action.outcome session).1 with
  | ok value => simp [result] at full
  | error error =>
    rw [result] at full
    cases error with
    | operation error =>
      obtain ⟨operation, cause⟩ := error
      obtain rfl := Option.some.inj full
      exact ⟨operation, rfl⟩
    | command error => nomatch full
    | _ => nomatch full

/-- What accesses that begin without a condition leave: at most one condition, and where the line
has to be reset nothing is known of SELECT. -/
theorem LinkState.Marked.sound {state next : LinkState} {turns : List Turn}
    (marked : state.Marked turns next) (clear : state.stickyError = false)
    (settled : state.lineResetPending = false) :
    (next.stickyError = true → next.lineResetPending = false) ∧
      (next.lineResetPending = true → next.selectCache = none) := by
  cases marked with
  | calm cache => simp [clear, settled]
  | fault => simp [settled]
  | silent => simp [clear]

namespace Session

section Courses

variable {session next : Session σ} {deeds : List Deed} {failure : Option AccessError}

omit [Transport σ] in
/-- A session of which nothing is known is in good order. -/
theorem Blank.sound (blank : session.Blank) : session.Sound where
  exclusive := by
    rw [blank.state]
    nofun
  unknown := by
    rw [blank.state]
    nofun
  batch := .inl blank.batch
  blank := fun _ ↦ blank

/-- Accesses that go out over a quiet link leave a session in good order. -/
private theorem sound_of_went {link : Link σ} {sends : Request → Prop} {turns : List Turn}
    (connected : link.state.isConnected = true) (quiet : link.Quiet)
    (went : link.Went sends turns next.link) : next.Sound := by
  obtain ⟨exclusive, unknown⟩ := went.state.sound quiet.sticky quiet.pending
  have still : next.link.state.isConnected = true :=
    (LinkState.isConnected_congr went.state.status).trans connected
  exact ⟨exclusive, unknown, .inl (went.batch.trans quiet.batch),
    fun closed ↦ by simp [still] at closed⟩

omit [Transport σ] in
/-- An access in the batch of a quiet link leaves a session in good order. -/
private theorem sound_of_built {batch : Batch} {start : Option Select}
    {accesses : List RegisterAccess} (connected : session.link.state.isConnected = true)
    (sticky : session.link.state.stickyError = false)
    (pending : session.link.state.lineResetPending = false) (some : accesses ≠ [])
    (built : batch.Built start accesses) :
    ({ session with link := { session.link with batch } } : Session σ).Sound where
  exclusive := fun _ ↦ pending
  unknown := fun contra ↦ by simp [pending] at contra
  batch := .inr ⟨connected, sticky, pending, start, accesses, some, built⟩
  blank := fun closed ↦ by simp [connected] at closed

omit [Transport σ] in
/-- Between calls a link that is active is fully up. -/
theorem Sound.connected (sound : session.Sound) (active : session.link.state.isActive = true) :
    session.link.state.isConnected = true := by
  by_contra closed
  rw [(sound.blank (Bool.eq_false_iff.mpr closed)).state] at active
  nomatch active

/-- Every course of an operation leaves a session in good order. -/
theorem Course.sound (sound : session.Sound) (course : session.Course failure deeds next) :
    next.Sound := by
  cases course with
  | speak clock capabilities asked =>
    refine ⟨sound.exclusive, sound.unknown, ?_, fun closed ↦ ?_⟩
    · refine sound.batch.imp id fun loaded ↦ ?_
      exact ⟨loaded.connected, loaded.sticky, loaded.pending, loaded.built⟩
    · obtain ⟨none, state⟩ := sound.blank closed
      exact ⟨none, by rw [state]⟩
  | drop asked =>
    refine ⟨sound.exclusive, fun _ ↦ rfl, .inl rfl, fun closed ↦ ?_⟩
    obtain ⟨none, state⟩ := sound.blank closed
    exact ⟨rfl, by rw [state]⟩
  | clear active follow conversation =>
    refine ⟨nofun, sound.unknown, ?_, fun closed ↦ ?_⟩
    · refine sound.batch.imp id fun loaded ↦ ?_
      exact ⟨loaded.connected, rfl, loaded.pending, loaded.built⟩
    · have connected := sound.connected active
      exact absurd connected (Bool.eq_false_iff.mp closed)
  | stir pending connected take conversation unbroken =>
    refine ⟨sound.exclusive, sound.unknown, ?_, fun closed ↦ ?_⟩
    · refine sound.batch.imp id fun loaded ↦ ?_
      exact ⟨loaded.connected, loaded.sticky, loaded.pending, loaded.built⟩
    · obtain ⟨none, state⟩ := sound.blank closed
      exact ⟨none, state⟩
  | wake none woke full =>
    obtain ⟨protocol, connected, -⟩ := woke.recovered
    obtain ⟨woken, -, went, -⟩ := woke.read
    have clear : session.link.state.stickyError = false := by
      by_contra sticky
      rw [Bool.not_eq_false] at sticky
      exact absurd (sound.exclusive sticky) (by simp [woke.pending])
    have up := LinkState.isConnected_of_connected connected
    exact @sound_of_went σ _ _ { session.link with
      transport := woken
      state := { session.link.state with
        selectCache := Option.none, lineResetPending := false } } _ _ up ⟨none, clear, rfl⟩ went
  | access connected prepared accessed =>
    obtain ⟨quiet, status, -⟩ := prepared.quiet sound
    have connected := (LinkState.isConnected_congr status).trans connected
    cases accessed with
    | went went => exact sound_of_went connected quiet went
    | queued active built =>
      exact @sound_of_built σ { session with link := _ } _ _ _ connected quiet.sticky
        quiet.pending (List.cons_ne_nil _ []) built
  | queue loaded some built =>
    exact sound_of_built loaded.connected loaded.sticky loaded.pending some built
  | send loaded went =>
    exact @sound_of_went σ _ _ session.link.discard _ _ loaded.connected
      ⟨rfl, loaded.sticky, loaded.pending⟩ went

omit [Transport σ] in
/-- A quiet link that is up leaves a session in good order. -/
private theorem sound_of_quiet {protocol : WireProtocol}
    (connected : session.link.state.status = .connected protocol) (quiet : session.link.Quiet) :
    session.Sound := by
  have up := LinkState.isConnected_of_connected connected
  exact ⟨fun _ ↦ quiet.pending, fun contra ↦ by simp [quiet.pending] at contra, .inl quiet.batch,
    fun closed ↦ by simp [up] at closed⟩

end Courses

/-- What a call can do to a session. `failure` tells why it fails, if it is an operation that does.
-/
inductive Step (session : Session σ) (failure : Option AccessError) :
    List Deed → Session σ → Prop
  /-- An operation takes one of its courses, and no exchange breaks. -/
  | kept {deeds : List Deed} {next : Session σ} (course : session.Course failure deeds next)
      (unbroken : failure.any AccessError.isBroken = false) : Step session failure deeds next
  /-- An exchange of an operation breaks. -/
  | lost {deeds : List Deed} {last : Session σ} (course : session.Course failure deeds last)
      (broken : failure.any AccessError.isBroken = true) :
      Step session failure (deeds ++ [.drain]) last.abandon
  /-- The session is disconnected. -/
  | parted {deeds : List Deed} {next : Session σ} (parts : session.Parts deeds next) :
      Step session failure deeds next
  /-- The session is connected, perhaps after it was disconnected. -/
  | connected {closing deeds : List Deed} {idle next : Session σ} {hint : Option WireProtocol}
      {protocol : WireProtocol} (parts : session.Parts closing idle)
      (succeeds : idle.ConnectSucceeds hint protocol deeds next) :
      Step session failure (closing ++ deeds) next
  /-- The session is not connected, perhaps after it was disconnected. -/
  | unconnected {closing deeds : List Deed} {idle next : Session σ} {hint : Option WireProtocol}
      {error : SessionError} (parts : session.Parts closing idle)
      (fails : idle.ConnectFails hint error deeds next) :
      Step session failure (closing ++ deeds) next

/-- Every call takes a step. -/
theorem call_steps {session : Session σ} (sound : session.Sound) (call : SessionCall) :
    call.action.Yields session (fun _ next ↦ ∃ deeds, session.Step none deeds next)
      (fun error next ↦ ∃ deeds, session.Step error.cause? deeds next) := by
  have operation (operates : call.operates = true) :
      call.action.Yields session (fun _ next ↦ ∃ deeds, session.Step none deeds next)
        (fun error next ↦ ∃ deeds, session.Step error.cause? deeds next) := by
    refine (operates_call sound operates).imp ?_ ?_
    · rintro _ next ⟨deeds, course⟩
      exact ⟨deeds, .kept course rfl⟩
    · rintro error _ ⟨deeds, last, course, rfl⟩
      have same := error.any_cause?
      cases broken : error.isBroken with
      | true => exact ⟨_, .lost course (same.trans broken)⟩
      | false => exact ⟨_, .kept course (same.trans broken)⟩
  cases call with
  | call asked =>
    cases asked with
    | connect hint =>
      refine Action.yields_map.mpr ((connect_parts_connects sound.blank hint).imp ?_ ?_)
      · rintro protocol next ⟨closing, idle, deeds, parts, succeeds⟩
        exact ⟨_, .connected parts succeeds⟩
      · rintro error next (⟨closing, parts⟩ | ⟨closing, idle, deeds, parts, fails⟩)
        · exact ⟨_, .parted parts⟩
        · exact ⟨_, .unconnected parts fails⟩
    | disconnect =>
      exact (disconnect_parts sound.blank).imp (fun _ _ ⟨deeds, parts⟩ ↦ ⟨deeds, .parted parts⟩)
        (fun _ _ ⟨deeds, parts⟩ ↦ ⟨deeds, .parted parts⟩)
    | _ => exact operation rfl
  | _ => exact operation rfl

section Steps

variable {session next : Session σ} {deeds : List Deed} {failure : Option AccessError}

/-- The deeds of a step lead from the transport before it to the one after it. -/
theorem Step.conversation (step : session.Step failure deeds next) :
    Conversation session.link.transport deeds next.link.transport := by
  cases step with
  | kept course unbroken => exact course.conversation
  | lost course broken => exact course.conversation.append (.drain (.nil _))
  | parted parts => exact parts.asked.conversation
  | connected parts succeeds => exact parts.asked.conversation.append succeeds.conversation
  | unconnected parts fails => exact parts.asked.conversation.append fails.conversation

/-- Every step leaves a session in good order. -/
theorem Step.sound (step : session.Step failure deeds next) (sound : session.Sound) :
    next.Sound := by
  cases step with
  | kept course unbroken => exact course.sound sound
  | @lost _ last course broken => exact (blank_abandon last).sound
  | parted parts => exact parts.blank.sound
  | connected parts succeeds => exact sound_of_quiet succeeds.status succeeds.quiet
  | unconnected parts fails => exact fails.blank.sound

/-- From a session in good order there is a step to the one that a call leaves. -/
theorem Sound.exists_step (sound : session.Sound) (call : SessionCall) :
    ∃ deeds, session.Step (call.failure? session) deeds (call.action.outcome session).2 := by
  obtain ⟨succeeds, fails⟩ := Action.yields_iff.mp (call_steps sound call)
  unfold SessionCall.failure?
  cases outcome : call.action.outcome session with
  | mk result next =>
    cases result with
    | ok value => exact succeeds value next outcome
    | error error => exact fails error next outcome

end Steps

/-- Every session that there can be is in good order. -/
theorem Reached.sound {session : Session σ} (reached : session.Reached) : session.Sound := by
  induction reached with
  | new transport config =>
    have blank : (Session.new transport config).Blank := ⟨rfl, rfl⟩
    exact blank.sound
  | call reached call ih =>
    obtain ⟨deeds, step⟩ := ih.exists_step call
    exact step.sound ih

/-- The session after some calls, whether they succeed or fail. -/
def after (session : Session σ) (calls : List SessionCall) : Session σ :=
  calls.foldl (fun session call ↦ (call.action.outcome session).2) session

/-- Calls lead from sessions that there can be to others. -/
theorem Reached.after {session : Session σ} (reached : session.Reached) (calls : List SessionCall) :
    (session.after calls).Reached := by
  induction calls generalizing session with
  | nil => exact reached
  | cons call rest ih => exact ih (.call reached call)

/-- Between calls the link is up or down; accesses wait only where it is up and no condition has to
be dealt with, and there is at most one; where the line has to be reset nothing is known of SELECT,
and of a target that is not connected nothing is known at all. -/
structure Consistent (session : Session σ) : Prop where
  settled : session.link.state.status = .disconnected ∨
    ∃ protocol, session.link.state.status = .connected protocol
  counted : session.link.batch.entries = [] ↔ session.link.batch.requests = 0
  waiting : session.link.batch.entries ≠ [] →
    (∃ protocol, session.link.state.status = .connected protocol) ∧
      session.link.state.stickyError = false ∧ session.link.state.lineResetPending = false
  exclusive :
    ¬(session.link.state.stickyError = true ∧ session.link.state.lineResetPending = true)
  unknown : session.link.state.lineResetPending = true → session.link.state.selectCache = none
  forgotten : session.link.state.status = .disconnected →
    session.link.batch = {} ∧ session.link.state.selectCache = none ∧
      session.link.state.dpidr = none ∧ session.link.state.dapIndex = 0 ∧
      session.link.state.stickyError = false ∧ session.link.state.lineResetPending = false

/-- Every session that there can be is consistent, whatever the transport does. -/
theorem Reached.consistent {session : Session σ} (reached : session.Reached) :
    session.Consistent := by
  have sound := reached.sound
  constructor
  · cases connected : session.link.state.isConnected with
    | true => exact .inr (LinkState.isConnected_iff.mp connected)
    | false =>
      left
      rw [(sound.blank connected).state]
  · rcases sound.batch with none | loaded
    · rw [none]
      exact ⟨fun _ ↦ rfl, fun _ ↦ rfl⟩
    · obtain ⟨start, accesses, some, built⟩ := loaded.built
      rw [built.entries, built.requests, Batch.entriesFrom_eq_nil, List.length_eq_zero_iff]
  · intro some
    rcases sound.batch with none | loaded
    · rw [none] at some
      exact absurd rfl some
    · exact ⟨LinkState.isConnected_iff.mp loaded.connected, loaded.sticky, loaded.pending⟩
  · rintro ⟨sticky, pending⟩
    rw [sound.exclusive sticky] at pending
    nomatch pending
  · exact sound.unknown
  · intro disconnected
    obtain ⟨none, state⟩ := sound.blank (LinkState.isConnected_of_disconnected disconnected)
    refine ⟨none, ?_⟩
    rw [state]
    exact ⟨rfl, rfl, rfl, rfl, rfl⟩

/-- A session over a simulated probe in which two accesses were queued, the second of them after a
read that was refused because the first one waited. -/
private def queueing : Session Simulator :=
  (Session.new {} {}).after [.call (.connect none),
    .call (.queue (.read (.access 0 0xFC))), .call (.readDp 4), .call (.queue (.read (.debug 4)))]

/-- A session in which accesses wait is consistent. -/
theorem Reached.consistent_queueing :
    queueing.Reached ∧ queueing.link.batch.requests = 2 ∧ queueing.Consistent := by
  have fresh : (Session.new ({} : Simulator) {}).Reached := .new _ _
  have reached : queueing.Reached := fresh.after _
  exact ⟨reached, by decide +kernel, reached.consistent⟩

end Session

end DebugProbe
