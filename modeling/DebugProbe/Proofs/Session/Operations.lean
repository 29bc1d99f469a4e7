import DebugProbe.Proofs.Memory.Plan
import DebugProbe.Proofs.Session.Course

/-!
# The courses of the operations

Whatever a caller asks for between a connect and a disconnect takes one of the courses of an
operation, and if it fails because an exchange broke then the session gives the link up.
-/

namespace DebugProbe

/-- Whether the call is about the probe rather than about a connection. -/
def SessionCall.isAside : SessionCall → Bool
  | call _ => false
  | _ => true

/-- Why an operation failed, where that is what failed. -/
def SessionError.cause? : SessionError → Option AccessError
  | operation error => some error.cause
  | command error => some (.command error)
  | _ => none

theorem SessionError.any_cause? (error : SessionError) :
    error.cause?.any AccessError.isBroken = error.isBroken := by
  cases error <;> rfl

variable {σ α : Type} [Transport σ]

namespace Session

variable {session : Session σ}

/-- The part of an operation takes one of the courses of an operation. -/
def Courses (session : Session σ) (action : Action (Session σ) AccessError α) : Prop :=
  action.Yields session (fun _ next ↦ ∃ deeds, session.Course none deeds next)
    (fun error next ↦ ∃ deeds, session.Course (some error) deeds next)

/-- The operation takes one of its courses, and a broken exchange gives the link up. -/
def Operates (session : Session σ) (action : Action (Session σ) SessionError α) : Prop :=
  action.Yields session (fun _ next ↦ ∃ deeds, session.Course none deeds next)
    (fun error next ↦ ∃ deeds last,
      session.Course error.cause? deeds last ∧ next = last.afterFailure error.isBroken)

/-- On a session that was prepared the action accesses registers or queues an access; where accesses
are refused it does nothing. -/
structure Heeds (session : Session σ) (action : Action (Session σ) AccessError α) : Prop where
  quiet : ∀ link : Link σ, link.Quiet → link.state.isActive = true →
    action.Yields { session with link }
      (fun _ next ↦ ∃ turns last, link.Accessed turns last ∧ next = { session with link := last })
      (fun _ next ↦ ∃ turns last, link.Accessed turns last ∧ next = { session with link := last })
  blocked : ∀ cause, session.link.Blocked cause →
    action.Yields session (fun _ next ↦ next = session) (fun _ next ↦ next = session)

/-- An access is preceded by what has to be put right. -/
theorem Heeds.courses {action : Action (Session σ) AccessError α} (heeds : session.Heeds action)
    (sound : session.Sound) : session.Courses (prepare >>= fun _ ↦ action) := by
  unfold Courses
  rw [Action.yields_bind]
  cases connected : session.link.state.isConnected with
  | false =>
    unfold prepare
    simp only [Action.yields_bind, Action.yields_get, Action.yields_ite, connected]
    exact ⟨fun _ ↦ ⟨[], course_nil session _⟩, fun contra ↦ absurd rfl contra⟩
  | true =>
    refine (yields_prepare_connected sound connected).imp ?_ fun _ _ stopped ↦ stopped.1
    rintro _ next (⟨turns, link, prepared, rfl⟩ | ⟨rfl, cause, blocked⟩)
    · obtain ⟨quiet, status, -⟩ := prepared.quiet sound
      have active : link.state.isActive = true := by
        unfold LinkState.isActive
        rw [status]
        exact LinkState.isActive_of_isConnected connected
      refine (heeds.quiet link quiet active).imp ?_ ?_
      · rintro _ _ ⟨more, last, accessed, rfl⟩
        exact ⟨_, .access connected prepared accessed⟩
      · rintro _ _ ⟨more, last, accessed, rfl⟩
        exact ⟨_, .access connected prepared accessed⟩
    · refine (heeds.blocked cause blocked).imp ?_ ?_
      · rintro _ _ rfl
        exact ⟨[], course_nil _ _⟩
      · rintro _ _ rfl
        exact ⟨[], course_nil _ _⟩

/-- Accesses that spare a quiet link and are refused on others heed what is in their way. -/
theorem heeds_onLink {action : Action (Link σ) AccessError α} (spares : Link.Spares action)
    (refuses : ∀ cause, session.link.Blocked cause → session.link.Refuses cause action) :
    session.Heeds (onLink action) where
  quiet := by
    intro link quiet _
    rw [yields_onLink]
    refine (spares link quiet).imp ?_ ?_
    · rintro _ last ⟨⟨turns, went⟩, -⟩
      exact ⟨turns, last, .went went, rfl⟩
    · rintro _ last ⟨turns, went⟩
      exact ⟨turns, last, .went went, rfl⟩
  blocked := by
    intro cause blocked
    rw [yields_onLink]
    refine (refuses cause blocked).imp (fun _ _ never ↦ never.elim) ?_
    rintro _ _ ⟨-, rfl⟩
    rfl

/-- An action that leaves every session as it is heeds everything. -/
theorem heeds_still {action : Action (Session σ) AccessError α}
    (still : ∀ session : Session σ,
      action.Yields session (fun _ next ↦ next = session) (fun _ next ↦ next = session)) :
    session.Heeds action where
  quiet := by
    intro link _ _
    refine (still _).imp ?_ ?_
    · rintro _ _ rfl
      exact ⟨[], link, .went (.nil _ link), rfl⟩
    · rintro _ _ rfl
      exact ⟨[], link, .went (.nil _ link), rfl⟩
  blocked := fun _ _ ↦ still session

theorem heeds_get_bind {next : Session σ → Action (Session σ) AccessError α}
    (heeds : ∀ current, session.Heeds (next current)) : session.Heeds (get >>= next) where
  quiet := fun link quiet active ↦ Action.yields_bind.mpr ((heeds _).quiet link quiet active)
  blocked := fun cause blocked ↦ Action.yields_bind.mpr ((heeds _).blocked cause blocked)

/-- An access to a register that is not valid leaves the session as it is. -/
private theorem heeds_register {access : RegisterAddress → Action (Link σ) AccessError α}
    (spares : ∀ register, Link.Spares (access register))
    (refuses : ∀ register cause, session.link.Blocked cause →
      session.link.Refuses cause (access register))
    (register : Except AccessError RegisterAddress) :
    session.Heeds (Action.ofExcept register >>= fun register ↦ onLink (access register)) := by
  cases register with
  | ok register => exact heeds_onLink (spares register) (refuses register)
  | error error => exact heeds_still fun _ ↦ rfl

theorem heeds_read (config : TransferConfig) (register : Except AccessError RegisterAddress) :
    session.Heeds (Action.ofExcept register >>= fun register ↦
      onLink (readRegister config register)) :=
  heeds_register (readRegister_spares config)
    (fun register _ blocked ↦ readRegister_refuses blocked config register) register

theorem heeds_write (config : TransferConfig) (register : Except AccessError RegisterAddress)
    (value : UInt32) :
    session.Heeds (Action.ofExcept register >>= fun register ↦
      onLink (writeRegister config register value)) :=
  heeds_register (fun register ↦ writeRegister_spares config register value)
    (fun register _ blocked ↦ writeRegister_refuses blocked config register value) register

theorem heeds_readSpans (config : TransferConfig) (port : MemoryPort) (spans : List MemorySpan) :
    session.Heeds (onLink (readSpans config port spans)) := by
  by_cases none : spans = []
  · subst none
    exact heeds_still fun _ ↦ rfl
  · exact heeds_onLink (readSpans_spares config port spans) fun _ blocked ↦
      readSpans_refuses blocked config port none

theorem heeds_writeSpans (config : TransferConfig) (port : MemoryPort) (spans : List MemorySpan)
    (data : Bytes) : session.Heeds (onLink (writeSpans config port spans data)) := by
  by_cases none : spans = []
  · subst none
    exact heeds_still fun _ ↦ rfl
  · exact heeds_onLink (writeSpans_spares config port spans data) fun _ blocked ↦
      writeSpans_refuses blocked config port none data

/-- The first access of a batch is queued, or refused because of a sticky error. -/
theorem heeds_queue (empty : session.link.batch.isEmpty = true) (access : RegisterAccess) :
    session.Heeds (onProbe Probe.packetSize >>= fun packetSize ↦
      onLink (Link.queue packetSize access)) where
  quiet := by
    intro link quiet active
    rw [Action.yields_bind, yields_onProbe]
    show Action.Yields _ { session with link } _ _
    rw [yields_onLink, Link.yields_queue, Link.yields_checkReady_of active quiet.sticky]
    split
    · next batch pushed =>
      have start : link.batch.Built link.state.selectCache [] := by
        rw [quiet.batch]
        exact Batch.built_empty _
      exact ⟨[], _, .queued active (start.push (fun _ ↦ rfl) pushed), rfl⟩
    · exact ⟨[], link, .went (.nil _ link), rfl⟩
  blocked := by
    intro cause blocked
    cases blocked with
    | sticky active sticky none =>
      rw [Action.yields_bind, yields_onProbe]
      show Action.Yields _ session _ _
      rw [yields_onLink]
      refine (Link.queue_refuses active sticky _ access).imp (fun _ _ never ↦ never.elim) ?_
      rintro _ _ ⟨-, rfl⟩
      rfl
    | batch active clear some => simp [empty] at some

section Accesses

variable (sound : session.Sound)
include sound

/-- An access is queued after those that wait, or as the first one. -/
theorem courses_queue (access : RegisterAccess) :
    session.Courses (do
      if (← get).link.batch.isEmpty then prepare
      let packetSize ← onProbe Probe.packetSize
      onLink (Link.queue packetSize access)) := by
  unfold Courses
  simp only [Action.yields_bind, Action.yields_get]
  cases empty : session.link.batch.isEmpty with
  | true => simpa [Courses] using (heeds_queue empty access).courses sound
  | false =>
    have loaded : session.Loaded := by
      rcases sound.batch with none | loaded
      · rw [none] at empty
        exact absurd empty (by decide)
      · exact loaded
    obtain ⟨start, accesses, some, built⟩ := loaded.built
    rw [if_neg Bool.false_ne_true, Action.yields_bind, yields_onProbe]
    show Action.Yields _ session _ _
    rw [yields_onLink, Link.yields_queue,
      Link.yields_checkReady_of (LinkState.isActive_of_isConnected loaded.connected) loaded.sticky]
    split
    · next batch pushed =>
      exact ⟨[], .queue loaded (by simp) (built.push (absurd · some) pushed)⟩
    · exact ⟨[], course_nil session _⟩

omit sound in
/-- Where no accesses wait, nothing is sent. -/
theorem flush_still {link : Link σ} (none : link.batch = {}) (config : TransferConfig) :
    (Link.flush config).Yields link (fun _ next ↦ next = link) (fun _ next ↦ next = link) := by
  have same : link.discard = link := by
    show ({ link with batch := {} } : Link σ) = link
    rw [← none]
  unfold Link.flush
  simp only [Action.yields_bind, Action.yields_get, Action.yields_update, same]
  rw [Link.yields_checkReady]
  refine ⟨fun _ ↦ rfl, fun _ _ ↦ rfl, fun _ _ ↦ ?_⟩
  rw [none]
  rfl

/-- The batch is sent, if accesses wait. -/
theorem courses_flush :
    session.Courses (do onLink (Link.flush (← get).config.transfer)) := by
  unfold Courses
  rw [Action.yields_bind, Action.yields_get, yields_onLink]
  rcases sound.batch with none | loaded
  · refine (flush_still none _).imp ?_ ?_
    · rintro _ _ rfl
      exact ⟨[], course_nil session _⟩
    · rintro _ _ rfl
      exact ⟨[], course_nil session _⟩
  · obtain ⟨start, accesses, some, built⟩ := loaded.built
    have ends : ∀ entry ∈ session.link.batch.entries.getLast?, entry.origin.isSome = true := by
      rw [built.entries]
      exact Batch.last_entriesFrom start 0 accesses
    refine (Link.yields_flush _ loaded.sticky loaded.pending ends).imp ?_ ?_
    · rintro _ next ⟨turns, sent⟩
      exact ⟨_, .send loaded (sent.went.mono fun _ sends ↦ sends.isAccess)⟩
    · rintro _ next ⟨turns, went, -⟩
      exact ⟨_, .send loaded (went.mono fun _ sends ↦ sends.isAccess)⟩

end Accesses

/-- Sticky errors are cleared on their own. -/
theorem courses_clearStickyErrors : session.Courses (onLink Link.clearStickyErrors) := by
  unfold Courses
  rw [yields_onLink]
  cases active : session.link.state.isActive with
  | true =>
    refine (yields_clearing active).imp ?_ ?_
    · rintro _ _ ⟨turns, transport, follow, conversation, rfl⟩
      exact ⟨_, .clear active follow conversation⟩
    · rintro _ _ ⟨turns, transport, take, conversation, rfl⟩
      exact ⟨_, course_of_take take conversation⟩
  | false =>
    unfold Link.clearStickyErrors
    simp only [Action.yields_bind, Action.yields_get, Action.yields_ite, active, Bool.not_false]
    exact ⟨fun _ ↦ ⟨[], course_nil session _⟩, fun contra ↦ absurd trivial contra⟩

/-- Whether or not the probe could be told, the batch is dropped. -/
theorem courses_abortTransfer :
    session.Courses (do
      let result ← (onLink Link.abortTransfer).attempt
      onLink (Action.update Link.forgetSelect)
      Action.ofExcept result) := by
  unfold Courses Link.abortTransfer Probe.abortTransfer
  simp only [Action.yields_bind, Action.yields_attempt, yields_onLink, Action.yields_update,
    Link.yields_command, Action.yields_ofExcept]
  have asks : (Probe.send (σ := σ) .transferAbort).Asks (· = .transferAbort) :=
    Probe.send_asks rfl
  refine (asks.yields session.link.transport).imp ?_ ?_
  · rintro _ transport ⟨deeds, asked⟩
    exact ⟨deeds, .drop asked⟩
  · rintro _ transport ⟨deeds, asked⟩
    exact ⟨deeds, .drop asked⟩

section Calls

/-- An operation does what its part does, and a broken exchange gives the link up. -/
@[simp] theorem yields_whole {operation : Operation} {action : Action (Session σ) AccessError α}
    {done : Unit → Session σ → Prop} {failed : SessionError → Session σ → Prop} :
    (whole (operate operation action)).Yields session done failed ↔
      action.Yields session (fun _ next ↦ done () next) (fun error next ↦
        failed (.operation ⟨operation, error⟩) (next.afterFailure error.isBroken)) := by
  unfold whole
  rw [Action.yields_mapError, Action.yields_map, yields_operate]

/-- An operation that takes a course gives the link up if an exchange broke. -/
theorem Courses.operates {action : Action (Session σ) AccessError α}
    (courses : session.Courses action) (operation : Operation) :
    session.Operates (whole (operate operation action)) := by
  unfold Operates
  rw [yields_whole]
  refine courses.imp (fun _ _ taken ↦ taken) ?_
  rintro error next ⟨deeds, course⟩
  exact ⟨deeds, next, course, rfl⟩

/-- A command only speaks with the probe. -/
theorem yields_command_asked {action : Action σ CommandError α}
    (asks : action.Asks (·.isAside = true)) :
    (command action).Yields session
      (fun _ next ↦ ∃ deeds transport,
        Asked (·.isAside = true) session.link.transport deeds transport ∧
        next = { session with link.transport := transport })
      (fun error next ↦ ∃ deeds transport,
        Asked (·.isAside = true) session.link.transport deeds transport ∧
        next = ({ session with link.transport := transport } : Session σ).afterFailure
          error.isBroken) := by
  unfold command
  rw [Action.yields_mapError, Action.yields_onError, yields_onProbe]
  refine (asks.yields session.link.transport).imp ?_ ?_
  · rintro _ transport ⟨deeds, asked⟩
    exact ⟨deeds, transport, asked, rfl⟩
  · rintro error transport ⟨deeds, asked⟩
    exact ⟨deeds, transport, asked, rfl⟩

/-- Nothing of a session but the transport, the clock and the capabilities is new. -/
def SpokeAside (session : Session σ) (deeds : List Deed) (next : Session σ) : Prop :=
  ∃ transport clock capabilities,
    Asked (·.isAside = true) session.link.transport deeds transport ∧
    next = { session with
      link := { session.link with transport, state := { session.link.state with clock } }
      capabilities }

/-- The operation only speaks with the probe, and a broken exchange gives the link up. -/
def SpeaksAside (session : Session σ) (action : Action (Session σ) SessionError α) : Prop :=
  action.Yields session (fun _ next ↦ ∃ deeds, session.SpokeAside deeds next)
    (fun error next ↦ ∃ deeds last,
      session.SpokeAside deeds last ∧ next = last.afterFailure error.isBroken)

/-- To speak with the probe is one of the courses of an operation. -/
theorem SpeaksAside.operates {action : Action (Session σ) SessionError α}
    (speaks : session.SpeaksAside action) : session.Operates action := by
  refine Action.Yields.imp speaks ?_ ?_
  · rintro _ _ ⟨deeds, transport, clock, capabilities, asked, rfl⟩
    exact ⟨deeds, .speak clock capabilities asked⟩
  · rintro error _ ⟨deeds, last, ⟨transport, clock, capabilities, asked, rfl⟩, same⟩
    exact ⟨deeds, _, .speak clock capabilities asked, same⟩

theorem speaks_command {action : Action σ CommandError α}
    (asks : action.Asks (·.isAside = true)) : session.SpeaksAside (command action) := by
  refine (yields_command_asked asks).imp ?_ ?_
  · rintro _ _ ⟨deeds, transport, asked, rfl⟩
    exact ⟨deeds, transport, session.link.state.clock, session.capabilities, asked, rfl⟩
  · rintro error _ ⟨deeds, transport, asked, rfl⟩
    exact ⟨deeds, _, ⟨transport, session.link.state.clock, session.capabilities, asked, rfl⟩, rfl⟩

/-- A command of one exchange whose answer is a status. -/
private theorem asks_accept {request : Request} (isAside : request.isAside = true)
    (status : request.Response → Status) (rejection : Rejection) :
    (Probe.send request >>= fun reply ↦ Probe.accept (status reply) rejection :
      Action σ CommandError Unit).Asks (·.isAside = true) := by
  have asks : (Probe.send (σ := σ) request).Asks (·.isAside = true) := Probe.send_asks isAside
  exact asks.bind fun reply ↦ Probe.accept_asks (status reply) rejection

/-- It is asked for once what the probe can do. -/
theorem yields_queryCapabilities :
    queryCapabilities.Yields session
      (fun capabilities next ↦ ∃ deeds transport,
        Asked (·.isInquiry = true) session.link.transport deeds transport ∧
        next = { session with
          link.transport := transport, capabilities := some capabilities })
      (fun error next ↦ ∃ deeds transport,
        Asked (·.isInquiry = true) session.link.transport deeds transport ∧
        next = ({ session with link.transport := transport } : Session σ).afterFailure
          error.isBroken) := by
  unfold queryCapabilities command
  rw [Action.yields_bind, Action.yields_get]
  split
  · next capabilities known =>
    refine ⟨[], session.link.transport, Asked.isPath.nil _, ?_⟩
    rw [← known]
  · rw [Action.yields_bind, Action.yields_mapError, Action.yields_onError, yields_onProbe]
    have asks := Probe.queryCapabilities_asks (σ := σ) session.config.probe.maxClock
    refine (asks.yields session.link.transport).imp ?_ ?_
    · rintro capabilities transport ⟨deeds, asked⟩
      exact ⟨deeds, transport, asked, rfl⟩
    · rintro error transport ⟨deeds, asked⟩
      exact ⟨deeds, transport, asked, rfl⟩

theorem speaks_queryCapabilities : session.SpeaksAside ((fun _ ↦ ()) <$> queryCapabilities) := by
  unfold SpeaksAside
  rw [Action.yields_map]
  refine yields_queryCapabilities.imp ?_ ?_
  · rintro capabilities _ ⟨deeds, transport, asked, rfl⟩
    exact ⟨deeds, transport, session.link.state.clock, some capabilities,
      asked.mono Request.isAside_of_isInquiry, rfl⟩
  · rintro error _ ⟨deeds, transport, asked, rfl⟩
    exact ⟨deeds, _, ⟨transport, session.link.state.clock, session.capabilities,
      asked.mono Request.isAside_of_isInquiry, rfl⟩, rfl⟩

/-- The clock is set once it is known how fast the probe can be. -/
theorem speaks_setClock (hertz : UInt32) :
    session.SpeaksAside ((fun _ ↦ ()) <$> setClock hertz) := by
  unfold SpeaksAside setClock
  rw [Action.yields_map, Action.yields_bind]
  refine yields_queryCapabilities.imp ?_ ?_
  · rintro capabilities _ ⟨deeds, transport, asked, rfl⟩
    have before := asked.mono Request.isAside_of_isInquiry
    rw [Action.yields_bind]
    refine (yields_command_asked (@asks_accept σ _ (.clock _) rfl id _)).imp ?_ ?_
    · rintro _ _ ⟨more, last, asked', rfl⟩
      rw [Action.yields_bind, yields_modifyState, Action.yields_pure]
      exact ⟨_, last, some _, some capabilities, Asked.isPath.append before asked', rfl⟩
    · rintro error _ ⟨more, last, asked', rfl⟩
      exact ⟨_, _, ⟨last, session.link.state.clock, some capabilities,
        Asked.isPath.append before asked', rfl⟩, rfl⟩
  · rintro error _ ⟨deeds, transport, asked, rfl⟩
    exact ⟨deeds, _, ⟨transport, session.link.state.clock, session.capabilities,
      asked.mono Request.isAside_of_isInquiry, rfl⟩, rfl⟩

/-- Calls that are about the probe rather than the target only speak with it. -/
theorem speaks_call {call : SessionCall} (isAside : call.isAside = true) :
    session.SpeaksAside call.action := by
  cases call with
  | call asked => nomatch isAside
  | queryCapabilities => exact speaks_queryCapabilities
  | identify =>
    exact Action.yields_map.mpr
      (speaks_command (Probe.identify_asks.mono Request.isAside_of_isInquiry))
  | setClock hertz => exact speaks_setClock hertz
  | resetTarget => exact speaks_command (asks_accept rfl _ _)
  | setResetPin level => exact Action.yields_bind.mpr (speaks_command (Probe.send_asks rfl))

/-- From a session in good order every operation takes one of its courses. -/
theorem operates_call (sound : session.Sound) {call : SessionCall}
    (operates : call.operates = true) :
    session.Operates call.action := by
  cases call with
  | call asked =>
    cases asked with
    | connect hint => nomatch operates
    | disconnect => nomatch operates
    | readDp address =>
      exact ((heeds_get_bind fun _ ↦ heeds_read _ _).courses sound).operates _
    | writeDp address value =>
      exact ((heeds_get_bind fun _ ↦ heeds_write _ _ value).courses sound).operates _
    | readAp address =>
      exact ((heeds_get_bind fun _ ↦ heeds_read _ _).courses sound).operates _
    | writeAp address value =>
      exact ((heeds_get_bind fun _ ↦ heeds_write _ _ value).courses sound).operates _
    | readMemory address size =>
      exact ((heeds_get_bind fun _ ↦ heeds_readSpans _ _ _).courses sound).operates _
    | writeMemory address data =>
      exact ((heeds_get_bind fun _ ↦ heeds_writeSpans _ _ _ data).courses sound).operates _
    | queue access => exact (courses_queue sound access).operates _
    | flush => exact (courses_flush sound).operates _
    | clearStickyErrors => exact courses_clearStickyErrors.operates _
    | abortTransfer => exact courses_abortTransfer.operates _
  | _ => exact (speaks_call rfl).operates

end Calls

end Session

end DebugProbe
