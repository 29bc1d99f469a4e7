import DebugProbe.Proofs.Select.Calls
import DebugProbe.Proofs.Session.Connecting
import DebugProbe.Simulator.Probe
import DebugProbe.Transport.Faulty

/-!
# Escalation of failures

A failure either is that of a broken exchange or it is not. In the first case the session gives the
link up: nothing is sent after the broken exchange, the transport is drained, and the session knows
no more than a new one. In the second case the connection is kept. This holds of every operation
on a connected session, wherever in the operation the failure arises.
-/

namespace DebugProbe

/-- All that a caller can ask of a session. -/
inductive SessionCall where
  /-- To connect, to disconnect or to access the target. -/
  | call (asked : Call)
  | queryCapabilities
  | identify
  | setClock (hertz : UInt32)
  | resetTarget
  | setResetPin (level : Bool)
  deriving DecidableEq, Repr

open DebugProbe.Action (stopsOnBreak_ite stopsOnBreak_get_bind stopsOnBreak_ofExcept)

variable {σ : Type} [Transport σ]

/-- An operation of which only the failure counts. -/
def Session.whole {α : Type} (action : Action (Session σ) OperationError α) :
    Action (Session σ) SessionError Unit :=
  ((fun _ ↦ ()) <$> action).mapError .operation

/-- What a call does to a session; of its answer only the failure counts. -/
def Call.action : Call → Action (Session σ) SessionError Unit
  | connect hint => (fun _ ↦ ()) <$> Session.connect hint
  | disconnect => Session.disconnect
  | readDp address => Session.whole (Session.readDp address)
  | writeDp address value => Session.whole (Session.writeDp address value)
  | readAp address => Session.whole (Session.readAp address)
  | writeAp address value => Session.whole (Session.writeAp address value)
  | readMemory address size => Session.whole (Session.readMemory address size)
  | writeMemory address data => Session.whole (Session.writeMemory address data)
  | queue access => Session.whole (Session.queue access)
  | flush => Session.whole Session.flush
  | clearStickyErrors => Session.whole Session.clearStickyErrors
  | abortTransfer => Session.whole Session.abortTransfer

namespace SessionCall

/-- What a call does to a session; of its answer only the failure counts. -/
def action : SessionCall → Action (Session σ) SessionError Unit
  | call asked => asked.action
  | queryCapabilities => (fun _ ↦ ()) <$> Session.queryCapabilities
  | identify => (fun _ ↦ ()) <$> Session.identify
  | setClock hertz => (fun _ ↦ ()) <$> Session.setClock hertz
  | resetTarget => Session.resetTarget
  | setResetPin level => Session.setResetPin level

/-- Whether the call is an operation on the connection there is, rather than a connect or a
disconnect. -/
def operates : SessionCall → Bool
  | call (.connect _) | call .disconnect => false
  | _ => true

/-- Whether the call needs to know what the probe can do. -/
def usesCapabilities : SessionCall → Bool
  | queryCapabilities | setClock _ => true
  | _ => false

end SessionCall

namespace Session

/-- The sessions that there can be: new ones, and those that calls leave behind, whether they
succeed or fail. -/
inductive Reached : Session σ → Prop
  | new (transport : σ) (config : Config) : Reached (.new transport config)
  | call {session : Session σ} (reached : Reached session) (call : SessionCall) :
      Reached (call.action.outcome session).2

/-- The connection is kept: frames were exchanged, and no exchange broke. -/
structure Kept (session next : Session (Recorded σ)) : Prop where
  status : next.link.state.status = session.link.state.status
  exchanges : ∃ turns : List Turn, (∀ turn ∈ turns, turn.Answered) ∧
    session.link.transport.Saw (turns.map .turn) next.link.transport

/-- The link was given up: what was known of the target is forgotten, the batch is dropped, no
exchange but the last one broke, and the transport was drained after it. -/
structure GivenUp (session next : Session (Recorded σ)) : Prop where
  state : next.link.state = {}
  batch : next.link.batch = {}
  exchanges : ∃ turns : List Turn, (∀ turn ∈ turns.dropLast, turn.Answered) ∧
    session.link.transport.Saw (turns.map .turn ++ [.drain]) next.link.transport

/-- A failure gives the link up exactly if it is that of a broken exchange. -/
def Escalates {ε α : Type} (session : Session (Recorded σ)) (broken : ε → Bool)
    (action : Action (Session (Recorded σ)) ε α) : Prop :=
  action.Yields session
    (fun _ next ↦ session.Kept next ∧ next.capabilities = session.capabilities)
    (fun error next ↦
      (broken error = true → session.GivenUp next) ∧
        (broken error = false → session.Kept next ∧ next.capabilities = session.capabilities))

section Operations

variable {session : Session (Recorded σ)}

/-- Where only answered exchanges took place the connection is kept. -/
private theorem kept_of_answered {next : Session (Recorded σ)} {turns : List Turn}
    (stays : session.Stays (turns.map .turn) next) (answered : ∀ turn ∈ turns, turn.Answered) :
    session.Kept next ∧ next.capabilities = session.capabilities := by
  obtain ⟨⟨conversation, status⟩, told⟩ := stays
  exact ⟨⟨status, turns, answered, conversation.saw⟩, told⟩

/-- Where an action stopped, the link is given up if an exchange broke and kept if none did. -/
private theorem escalated_of_stopped {next : Session (Recorded σ)} {broken : Bool}
    {turns : List Turn} (stays : session.Stays (turns.map .turn) next)
    (stopped : Turn.Stopped broken turns) :
    (broken = true → session.GivenUp (next.afterFailure broken)) ∧
      (broken = false → session.Kept (next.afterFailure broken) ∧
        (next.afterFailure broken).capabilities = session.capabilities) := by
  cases broken with
  | true =>
    obtain ⟨⟨conversation, -⟩, -⟩ := stays
    refine ⟨fun _ ↦ ⟨rfl, rfl, turns, stopped.answered, ?_⟩, nofun⟩
    exact (conversation.append (.drain (.nil _))).saw
  | false => exact ⟨nofun, fun _ ↦ kept_of_answered stays (stopped.unbroken rfl)⟩

/-- An operation that stops at a broken exchange escalates it. -/
theorem escalates_operate {α : Type} (operation : Operation)
    {action : Action (Session (Recorded σ)) AccessError α}
    (stops : action.StopsOnBreak Stays AccessError.isBroken) :
    session.Escalates (fun error : OperationError ↦ error.cause.isBroken)
      (operate operation action) := by
  unfold Escalates
  rw [yields_operate]
  refine (stops session).imp ?_ ?_
  · rintro _ next ⟨turns, stays, answered⟩
    exact kept_of_answered stays answered
  · rintro error next ⟨turns, stays, stopped⟩
    exact escalated_of_stopped stays stopped

/-- A command that stops at a broken exchange escalates it. -/
theorem escalates_command {α : Type} {action : Action (Recorded σ) CommandError α}
    (stops : action.StopsOnBreak Conversation CommandError.isBroken) :
    session.Escalates SessionError.isBroken (command action) := by
  unfold Escalates command
  rw [Action.yields_mapError, Action.yields_onError, yields_onProbe]
  refine (stops session.link.transport).imp ?_ ?_
  · rintro _ next ⟨turns, conversation, answered⟩
    exact kept_of_answered ⟨⟨conversation, rfl⟩, rfl⟩ answered
  · rintro error next ⟨turns, conversation, stopped⟩
    exact escalated_of_stopped ⟨⟨conversation, rfl⟩, rfl⟩ stopped

/-- Leaving the answer out and naming the failure anew do not matter to escalation. -/
theorem Escalates.whole {α : Type} {action : Action (Session (Recorded σ)) OperationError α}
    (escalates : session.Escalates (fun error : OperationError ↦ error.cause.isBroken) action) :
    session.Escalates SessionError.isBroken (whole action) := by
  unfold Escalates Session.whole
  rw [Action.yields_mapError, Action.yields_map]
  exact escalates

theorem escalates_read (operation : Operation) (register : Except AccessError RegisterAddress) :
    session.Escalates SessionError.isBroken (whole (read operation register)) := by
  refine (escalates_operate operation ?_).whole
  refine prepare_stopsOnBreak.bind stays_isPath fun _ ↦ stopsOnBreak_get_bind fun session ↦ ?_
  exact (stopsOnBreak_ofExcept stays_isPath register).bind stays_isPath fun _ ↦
    onLink_stopsOnBreak (readRegister_stopsOnBreak _ _)

theorem escalates_write (operation : Operation) (register : Except AccessError RegisterAddress)
    (value : UInt32) :
    session.Escalates SessionError.isBroken (whole (write operation register value)) := by
  refine (escalates_operate operation ?_).whole
  refine prepare_stopsOnBreak.bind stays_isPath fun _ ↦ stopsOnBreak_get_bind fun session ↦ ?_
  exact (stopsOnBreak_ofExcept stays_isPath register).bind stays_isPath fun _ ↦
    onLink_stopsOnBreak (writeRegister_stopsOnBreak _ _ value)

theorem escalates_readMemory (address : UInt32) (size : Nat) :
    session.Escalates SessionError.isBroken (whole (readMemory address size)) := by
  refine (escalates_operate _ ?_).whole
  refine prepare_stopsOnBreak.bind stays_isPath fun _ ↦ stopsOnBreak_get_bind fun session ↦ ?_
  exact onLink_stopsOnBreak (readSpans_stopsOnBreak _ _ _)

theorem escalates_writeMemory (address : UInt32) (data : Bytes) :
    session.Escalates SessionError.isBroken (whole (writeMemory address data)) := by
  refine (escalates_operate _ ?_).whole
  refine prepare_stopsOnBreak.bind stays_isPath fun _ ↦ stopsOnBreak_get_bind fun session ↦ ?_
  exact onLink_stopsOnBreak (writeSpans_stopsOnBreak _ _ _ data)

theorem escalates_queue (access : RegisterAccess) :
    session.Escalates SessionError.isBroken (whole (queue access)) := by
  have queueing : (onProbe Probe.packetSize >>= fun packetSize ↦
      onLink (Link.queue packetSize access)).StopsOnBreak (Stays (σ := Recorded σ))
      AccessError.isBroken :=
    (onLink_stopsOnBreak Link.packetSize_stopsOnBreak).bind stays_isPath fun _ ↦
      onLink_stopsOnBreak (Link.queue_stopsOnBreak _ access)
  refine (escalates_operate _ ?_).whole
  refine stopsOnBreak_get_bind fun session ↦ stopsOnBreak_ite (fun _ ↦ ?_) fun _ ↦ queueing
  exact prepare_stopsOnBreak.bind stays_isPath fun _ ↦ queueing

theorem escalates_flush : session.Escalates SessionError.isBroken (whole flush) :=
  (escalates_operate _ (stopsOnBreak_get_bind fun _ ↦
    onLink_stopsOnBreak (Link.flush_stopsOnBreak _))).whole

theorem escalates_clearStickyErrors :
    session.Escalates SessionError.isBroken (whole clearStickyErrors) :=
  (escalates_operate _ (onLink_stopsOnBreak Link.clearStickyErrors_stopsOnBreak)).whole

theorem escalates_abortTransfer :
    session.Escalates SessionError.isBroken (whole abortTransfer) := by
  have forgets (session : Session (Recorded σ)) :
      session.Stays [] { session with link := session.link.forgetSelect } :=
    ⟨Link.stays_nil rfl rfl, rfl⟩
  -- The failure is held back until SELECT is forgotten, so the rule for sequences does not apply.
  refine (escalates_operate _ fun session ↦ ?_).whole
  rw [Action.yields_bind, Action.yields_attempt]
  refine (onLink_stopsOnBreak Link.abortTransfer_stopsOnBreak session).imp ?_ ?_
  · rintro _ next ⟨turns, stays, answered⟩
    rw [Action.yields_bind, yields_onLink, Action.yields_update, Action.yields_ofExcept]
    have forgotten := stays_isPath.append stays (forgets next)
    rw [List.append_nil] at forgotten
    exact ⟨turns, forgotten, answered⟩
  · rintro error next ⟨turns, stays, stopped⟩
    rw [Action.yields_bind, yields_onLink, Action.yields_update, Action.yields_ofExcept]
    have forgotten := stays_isPath.append stays (forgets next)
    rw [List.append_nil] at forgotten
    exact ⟨turns, forgotten, stopped⟩

/-- The clock is set by a single command if it is known what the probe can do. -/
theorem escalates_setClock (hertz : UInt32) (known : session.capabilities.isSome = true) :
    session.Escalates SessionError.isBroken ((fun _ ↦ ()) <$> setClock hertz) := by
  obtain ⟨capabilities, told⟩ := Option.isSome_iff_exists.mp known
  unfold Escalates setClock queryCapabilities
  rw [Action.yields_map]
  simp only [Action.yields_bind, Action.yields_get, told, Action.yields_pure]
  refine (escalates_command (Probe.setClock_stopsOnBreak _)).imp ?_ ?_
  · rintro _ next ⟨⟨status, exchanges⟩, same⟩
    exact ⟨⟨status, exchanges⟩, same.trans told⟩
  · rintro error next ⟨onBroken, onKept⟩
    exact ⟨onBroken, fun unbroken ↦ ⟨(onKept unbroken).1, (onKept unbroken).2.trans told⟩⟩

theorem escalates_queryCapabilities (known : session.capabilities.isSome = true) :
    session.Escalates SessionError.isBroken ((fun _ ↦ ()) <$> queryCapabilities) := by
  obtain ⟨capabilities, told⟩ := Option.isSome_iff_exists.mp known
  unfold Escalates queryCapabilities
  rw [Action.yields_map]
  simp only [Action.yields_bind, Action.yields_get, told, Action.yields_pure]
  exact ⟨⟨rfl, [], List.forall_mem_nil _, (Conversation.nil _).saw⟩, trivial⟩

/-- Every operation escalates broken exchanges and nothing else, if it is known what the probe can
do or need not be known. -/
theorem escalates_call {call : SessionCall} (operates : call.operates = true)
    (known : call.usesCapabilities = true → session.capabilities.isSome = true) :
    session.Escalates SessionError.isBroken call.action := by
  cases call with
  | call asked =>
    cases asked with
    | connect hint => nomatch operates
    | disconnect => nomatch operates
    | readDp address => exact escalates_read _ _
    | writeDp address value => exact escalates_write _ _ value
    | readAp address => exact escalates_read _ _
    | writeAp address value => exact escalates_write _ _ value
    | readMemory address size => exact escalates_readMemory address size
    | writeMemory address data => exact escalates_writeMemory address data
    | queue access => exact escalates_queue access
    | flush => exact escalates_flush
    | clearStickyErrors => exact escalates_clearStickyErrors
    | abortTransfer => exact escalates_abortTransfer
  | queryCapabilities => exact escalates_queryCapabilities (known rfl)
  | identify => exact Action.yields_map.mpr (escalates_command Probe.identify_stopsOnBreak)
  | setClock hertz => exact escalates_setClock hertz (known rfl)
  | resetTarget => exact escalates_command Probe.resetTarget_stopsOnBreak
  | setResetPin level =>
    exact Action.yields_bind.mpr (escalates_command (Probe.setResetPin_stopsOnBreak level))

end Operations

/-- A connected session knows what the probe can do. -/
def Informed (session : Session σ) : Prop :=
  session.link.state.isConnected = true → session.capabilities.isSome = true

omit [Transport σ] in
private theorem informed_of_closed {session : Session σ}
    (closed : session.link.state.isConnected = false) : session.Informed := by
  intro connected
  rw [closed] at connected
  nomatch connected

omit [Transport σ] in
private theorem Informed.of_same {session next : Session σ} (informed : session.Informed)
    (status : next.link.state.status = session.link.state.status)
    (told : next.capabilities = session.capabilities) : next.Informed := by
  intro connected
  rw [LinkState.isConnected_congr status] at connected
  rw [told]
  exact informed connected

private theorem Ended.informed {session next : Session σ} (ended : session.Ended next) :
    next.Informed :=
  informed_of_closed (congrArg LinkState.isConnected ended.state)

private theorem queryCapabilities_informed {session : Session σ} (informed : session.Informed) :
    queryCapabilities.Yields session
      (fun _ next ↦ next.capabilities.isSome = true) (fun _ next ↦ next.Informed) := by
  refine (queryCapabilities_ends session).imp ?_ ?_
  · rintro capabilities next ⟨told, -⟩
    rw [told]
    rfl
  · rintro error next (⟨-, ended⟩ | ⟨-, state, told⟩)
    · exact ended.informed
    · exact informed.of_same (congrArg LinkState.status state) told

private theorem setClock_informed {session : Session σ} (informed : session.Informed)
    (hertz : UInt32) :
    (setClock hertz).Yields session (fun _ next ↦ next.Informed) (fun _ next ↦ next.Informed) := by
  unfold setClock
  rw [Action.yields_bind]
  refine (queryCapabilities_informed informed).imp ?_ (fun _ _ told ↦ told)
  intro capabilities next told
  rw [Action.yields_bind]
  refine (command_ends next fun start ↦
    (Probe.setClock_stopsOnBreak _).keeps Conversation.isPath start).imp ?_ ?_
  · rintro _ _ ⟨transport, rfl, -⟩
    rw [Action.yields_bind, yields_modifyState, Action.yields_pure]
    exact fun _ ↦ told
  · rintro error last (⟨-, ended⟩ | ⟨-, -, same⟩)
    · exact ended.informed
    · intro _
      rw [same]
      exact told

/-- A call leaves a session that knows what the probe can do if it is connected. -/
private theorem call_informed {session : Session (Recorded σ)} (informed : session.Informed)
    (call : SessionCall) :
    call.action.Yields session (fun _ next ↦ next.Informed) (fun _ next ↦ next.Informed) := by
  have operation (operates : call.operates = true) (direct : call.usesCapabilities = false) :
      call.action.Yields session (fun _ next ↦ next.Informed) (fun _ next ↦ next.Informed) := by
    have known (uses : call.usesCapabilities = true) : session.capabilities.isSome = true := by
      rw [direct] at uses
      nomatch uses
    refine (escalates_call operates known).imp ?_ ?_
    · rintro _ next ⟨kept, told⟩
      exact informed.of_same kept.status told
    · rintro error next ⟨onBroken, onKept⟩
      cases broken : error.isBroken with
      | true => exact informed_of_closed (congrArg LinkState.isConnected (onBroken broken).state)
      | false => exact informed.of_same (onKept broken).1.status (onKept broken).2
  cases call with
  | call asked =>
    cases asked with
    | connect hint =>
      refine Action.yields_map.mpr ((connect_ends session hint).imp ?_ ?_)
      · exact fun _ _ told _ ↦ told
      · rintro error next (⟨-, left⟩ | ⟨-, closed, -⟩)
        · exact informed_of_closed left.closed
        · exact informed_of_closed closed
    | disconnect =>
      exact (disconnect_leaves session).imp (fun _ _ left ↦ informed_of_closed left.closed)
        (fun _ _ left ↦ informed_of_closed left.closed)
    | _ => exact operation rfl rfl
  | queryCapabilities =>
    exact Action.yields_map.mpr ((queryCapabilities_informed informed).imp
      (fun _ _ told _ ↦ told) (fun _ _ told ↦ told))
  | setClock hertz => exact Action.yields_map.mpr (setClock_informed informed hertz)
  | _ => exact operation rfl rfl

/-- Every session that there can be knows what the probe can do if it is connected. -/
theorem Reached.informed {session : Session (Recorded σ)} (reached : session.Reached) :
    session.Informed := by
  induction reached with
  | new transport config => exact informed_of_closed rfl
  | call reached call ih => exact (call_informed ih call).left

/-- Every operation on a connected session either keeps the connection and broke no exchange, or
fails because an exchange broke. Then the session has given the link up: it knows no more of the
target than a new one, no access waits, nothing was sent after the exchange that broke, and the
transport was drained. -/
theorem Reached.escalates {session : Session (Recorded σ)} (reached : session.Reached)
    {protocol : WireProtocol} (connected : session.link.state.status = .connected protocol)
    {call : SessionCall} (operates : call.operates = true) :
    call.action.Yields session
      (fun _ next ↦ next.link.state.status = .connected protocol ∧ session.Kept next)
      (fun error next ↦
        (error.isBroken = true → session.GivenUp next) ∧
          (error.isBroken = false →
            next.link.state.status = .connected protocol ∧ session.Kept next)) := by
  have known : session.capabilities.isSome = true :=
    reached.informed (LinkState.isConnected_of_connected connected)
  refine (escalates_call operates fun _ ↦ known).imp ?_ ?_
  · rintro _ next ⟨kept, -⟩
    exact ⟨kept.status.trans connected, kept⟩
  · rintro error next ⟨onBroken, onKept⟩
    refine ⟨onBroken, fun unbroken ↦ ?_⟩
    have kept := (onKept unbroken).1
    exact ⟨kept.status.trans connected, kept⟩

/-- A session that is connected over a simulated probe which leaves the first block transfer
unanswered. -/
private def silenced : Session (Recorded (Faulty Simulator)) :=
  ((SessionCall.call (.connect none)).action.outcome
    (.new { inner := { inner := {}, faults := [⟨0x06, 0, .failRead .timeout⟩] } } {})).2

private theorem connected_silenced : silenced.link.state.status = .connected .swd := by
  decide +kernel

private theorem broken_silenced :
    (match ((SessionCall.call (.readMemory 0x3FD 7)).action.outcome silenced).1 with
      | .ok _ => false
      | .error error => error.isBroken) = true := by
  decide +kernel

/-- A read of memory that times out in its second span gives the link up. -/
theorem Reached.escalates_silenced :
    silenced.Reached ∧ silenced.link.state.status = .connected .swd ∧
      silenced.GivenUp ((SessionCall.call (.readMemory 0x3FD 7)).action.outcome silenced).2 := by
  have reached : silenced.Reached := .call (.new _ _) (.call (.connect none))
  refine ⟨reached, connected_silenced, ?_⟩
  have escalates := reached.escalates connected_silenced
    (rfl : (SessionCall.call (.readMemory 0x3FD 7)).operates = true)
  have broken := broken_silenced
  cases outcome : (SessionCall.call (.readMemory 0x3FD 7)).action.outcome silenced with
  | mk result next =>
    rw [outcome] at broken
    cases result with
    | ok value => nomatch broken
    | error error => exact ((Action.yields_iff.mp escalates).2 error next outcome).1 broken

end Session

end DebugProbe
