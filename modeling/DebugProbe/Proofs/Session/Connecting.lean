import DebugProbe.Proofs.Session.Stopping

/-!
# Connecting and disconnecting as conversations

Connecting tries the port again, negotiates the packet size and looks at the power acknowledges
again and again, so it does not stop at its first broken exchange; but all that it does is a
conversation, and it does not forget what the probe can do. If it fails the transport is drained in
the end. Disconnecting sends its two commands and does not drain.
-/

namespace DebugProbe

open DebugProbe.Action (Reached)

variable {σ : Type} [Transport σ]

namespace Session

/-- Deeds lead from session to session, and what the probe can do is still known. -/
def Spoke (session : Session σ) (deeds : List Deed) (next : Session σ) : Prop :=
  Conversation session.link.transport deeds next.link.transport ∧
    next.capabilities = session.capabilities

/-- An action of the probe speaks in a session as it does on its own. -/
private theorem onProbe_keeps {ε α : Type} {action : Action σ ε α}
    (keeps : ∀ start, action.Keeps (Reached Conversation start) (Reached Conversation start))
    (start : Session σ) :
    (onProbe action).Keeps (Reached Spoke start) (Reached Spoke start) := by
  rintro session ⟨deeds, before, same⟩
  rw [yields_onProbe]
  exact (keeps start.link.transport _ ⟨deeds, before⟩).imp
    (fun _ _ ⟨more, conversation⟩ ↦ ⟨more, conversation, same⟩)
    (fun _ _ ⟨more, conversation⟩ ↦ ⟨more, conversation, same⟩)

private theorem commandWhileConnecting_keeps {α : Type} {action : Action σ CommandError α}
    (stops : action.StopsOnBreak Conversation CommandError.isBroken) (start : Session σ) :
    (commandWhileConnecting action).Keeps (Reached Spoke start) (Reached Spoke start) :=
  (onProbe_keeps (stops.keeps Conversation.isPath) start).mapError

private theorem whileConnecting_keeps {α : Type} (operation : Operation)
    {action : Action (Link σ) AccessError α}
    (stops : action.StopsOnBreak Link.Stays AccessError.isBroken) (start : Session σ) :
    (whileConnecting operation action).Keeps (Reached Spoke start) (Reached Spoke start) := by
  refine Action.Keeps.mapError ?_
  rintro session ⟨deeds, before, same⟩
  rw [yields_onLink]
  refine (stops session.link).imp ?_ ?_
  · rintro _ next ⟨turns, ⟨conversation, -⟩, -⟩
    exact ⟨_, before.append conversation, same⟩
  · rintro _ next ⟨turns, ⟨conversation, -⟩, -⟩
    exact ⟨_, before.append conversation, same⟩

private theorem modifyState_keeps {ε : Type} (change : LinkState → LinkState)
    (start : Session σ) :
    (modifyState change : Action (Session σ) ε Unit).Keeps (Reached Spoke start)
      (Reached Spoke start) :=
  fun _ ⟨deeds, before, same⟩ ↦ ⟨deeds, before, same⟩

private theorem connectPort_keeps (protocol : WireProtocol) (total attempts : Nat)
    (start : Session σ) :
    (connectPort protocol total attempts).Keeps (Reached Spoke start) (Reached Spoke start) := by
  induction attempts with
  | zero => exact Action.keeps_throw _ fun _ reached ↦ reached
  | succ attempts ih =>
    unfold connectPort
    have asking := onProbe_keeps (fun start ↦ (Probe.connectPort_stopsOnBreak (some protocol)).keeps
      Conversation.isPath start) start
    refine asking.attempt.bind fun reply ↦ ?_
    split
    · exact Action.keeps_ite (Action.keeps_pure ()) ih
    · exact ih
    · exact Action.keeps_throw _ fun _ reached ↦ reached

private theorem awaitPower_keeps (polls : Nat) (start : Session σ) :
    (awaitPower polls).Keeps (Reached Spoke start) (Reached Spoke start) := by
  induction polls with
  | zero => exact Action.keeps_throw _ fun _ reached ↦ reached
  | succ polls ih =>
    refine Action.keeps_get_bind fun session ↦ ?_
    refine (whileConnecting_keeps _ (readRegister_stopsOnBreak _ _) start).bind fun status ↦ ?_
    exact Action.keeps_ite (Action.keeps_pure ()) ih

private theorem powerUp_keeps (start : Session σ) :
    powerUp.Keeps (Reached Spoke start) (Reached Spoke start) := by
  refine Action.keeps_get_bind fun session ↦ ?_
  refine (whileConnecting_keeps _ Link.clearStickyErrors_stopsOnBreak start).bind fun _ ↦ ?_
  refine (whileConnecting_keeps _ (writeRegister_stopsOnBreak _ _ _) start).bind fun _ ↦ ?_
  exact Action.keeps_get_bind fun session ↦ awaitPower_keeps _ start

/-- With the port set up the line is woken, the identification is read and power is requested. -/
private theorem wake_keeps {rename : LineError → SessionError} (config : Config)
    (protocol : WireProtocol) (start : Session σ) :
    (do
      (onProbe (Line.connect protocol (.ofTargetSel config.session.targetSel))).mapError rename
      let dpidr ← whileConnecting (.readDp DebugPort.identificationAddress)
        (readRegister config.transfer (.debug DebugPort.identificationAddress))
      modifyState fun state ↦ { state with dpidr := some dpidr }
      if config.session.powerUp then powerUp
      commandWhileConnecting (Probe.hostStatus true) :
      Action (Session σ) SessionError Unit).Keeps (Reached Spoke start) (Reached Spoke start) := by
  have told := commandWhileConnecting_keeps (Probe.hostStatus_stopsOnBreak true) start
  refine (onProbe_keeps (Line.connect_keeps protocol _) start).mapError.bind fun _ ↦ ?_
  refine (whileConnecting_keeps _ (readRegister_stopsOnBreak _ _) start).bind fun dpidr ↦ ?_
  refine (modifyState_keeps _ start).bind fun _ ↦ ?_
  exact Action.keeps_ite ((powerUp_keeps start).bind fun _ ↦ told) told

/-- The steps of a connect are a conversation. -/
theorem establish_keeps (capabilities : Capabilities) (protocol : WireProtocol)
    (start : Session σ) :
    (establish capabilities protocol).Keeps (Reached Spoke start) (Reached Spoke start) := by
  refine Action.keeps_get_bind fun session ↦ ?_
  refine (connectPort_keeps protocol _ _ start).bind fun _ ↦ ?_
  refine (commandWhileConnecting_keeps (Probe.setClock_stopsOnBreak _) start).bind fun _ ↦ ?_
  refine (modifyState_keeps _ start).bind fun _ ↦ ?_
  refine (commandWhileConnecting_keeps (Probe.configureTransfers_stopsOnBreak _) start).bind
    fun _ ↦ ?_
  cases protocol with
  | swd =>
    refine (commandWhileConnecting_keeps (Probe.configureSwd_stopsOnBreak _) start).bind
      fun _ ↦ ?_
    exact wake_keeps session.config .swd start
  | jtag =>
    have chained := (Probe.fitting_stopsOnBreak (σ := σ)
      (JtagChain.ofLengths? session.config.session.jtagIrLengths)).bind Conversation.isPath
        Probe.configureJtag_stopsOnBreak
    refine (commandWhileConnecting_keeps chained start).bind fun _ ↦ ?_
    refine (modifyState_keeps _ start).bind fun _ ↦ ?_
    exact wake_keeps session.config .jtag start

/-- The target was left: frames were exchanged, nothing else was done with the transport, and there
is no connection. -/
structure Left (session next : Session σ) : Prop where
  exchanges : ∃ turns : List Turn,
    Conversation session.link.transport (turns.map .turn) next.link.transport
  closed : next.link.state.isConnected = false

/-- The target was forgotten, and the transport was drained after all that was done with it. -/
structure Ended (session next : Session σ) : Prop where
  state : next.link.state = {}
  drained : ∃ deeds, Conversation session.link.transport (deeds ++ [.drain]) next.link.transport

/-- A session that is abandoned ends. -/
theorem ended_abandon {session next : Session σ}
    (reached : Reached Conversation session.link.transport next.link.transport) :
    session.Ended next.abandon := by
  obtain ⟨deeds, conversation⟩ := reached
  exact ⟨rfl, deeds, conversation.append (.drain (.nil _))⟩

/-- However disconnecting ends, it leaves the target. -/
theorem disconnect_leaves (session : Session σ) :
    disconnect.Yields session (fun _ next ↦ session.Left next)
      (fun _ next ↦ session.Left next) := by
  have commands {α : Type} {action : Action σ CommandError α}
      (stops : action.StopsOnBreak Conversation CommandError.isBroken) (transport : σ) :
      action.Yields transport
        (fun _ next ↦ ∃ turns : List Turn, Conversation transport (turns.map .turn) next)
        (fun _ next ↦ ∃ turns : List Turn, Conversation transport (turns.map .turn) next) :=
    (stops transport).imp (fun _ _ ⟨turns, conversation, _⟩ ↦ ⟨turns, conversation⟩)
      (fun _ _ ⟨turns, conversation, _⟩ ↦ ⟨turns, conversation⟩)
  -- The port is released whether or not the host status was taken.
  have releasing (told : Except CommandError Unit) {transport : σ}
      (early : ∃ turns : List Turn,
        Conversation session.link.transport (turns.map .turn) transport) :
      (do
        let released ← (onProbe Probe.disconnect).attempt
        Action.update reset
        (Action.ofExcept (told.bind fun _ ↦ released)).mapError .command :
        Action (Session σ) SessionError Unit).Yields { session with link.transport := transport }
        (fun _ next ↦ session.Left next) (fun _ next ↦ session.Left next) := by
    obtain ⟨turns, before⟩ := early
    have leaves {last : σ} (late : ∃ turns : List Turn,
          Conversation transport (turns.map .turn) last) :
        session.Left ({ session with link.transport := last } : Session σ).reset := by
      obtain ⟨more, after⟩ := late
      refine ⟨⟨turns ++ more, ?_⟩, rfl⟩
      rw [List.map_append]
      exact before.append after
    rw [Action.yields_bind, Action.yields_attempt, yields_onProbe]
    refine (commands Probe.disconnect_stopsOnBreak transport).imp ?_ ?_
    · intro _ last late
      rw [Action.yields_bind, Action.yields_update, Action.yields_mapError,
        Action.yields_ofExcept]
      split
      · exact leaves late
      · exact leaves late
    · intro _ last late
      rw [Action.yields_bind, Action.yields_update, Action.yields_mapError,
        Action.yields_ofExcept]
      split
      · exact leaves late
      · exact leaves late
  unfold disconnect
  rw [Action.yields_bind, Action.yields_get, Action.yields_ite]
  constructor
  · intro disconnected
    exact ⟨⟨[], .nil _⟩, LinkState.isConnected_of_disconnected disconnected⟩
  · intro _
    rw [Action.yields_bind, Action.yields_attempt, yields_onProbe]
    exact (commands (Probe.hostStatus_stopsOnBreak false) session.link.transport).imp
      (fun _ _ early ↦ releasing _ early) (fun _ _ early ↦ releasing _ early)

/-- A command of a session that fails because an exchange broke ends the session; otherwise only
the transport changes. -/
theorem command_ends {α : Type} {action : Action σ CommandError α} (session : Session σ)
    (keeps : ∀ start, action.Keeps (Reached Conversation start) (Reached Conversation start)) :
    (command action).Yields session
      (fun _ next ↦ ∃ transport, next = { session with link.transport := transport } ∧
        Reached Conversation session.link.transport transport)
      (fun error next ↦ (error.isBroken = true ∧ session.Ended next) ∨
        (error.isBroken = false ∧ next.link.state = session.link.state ∧
          next.capabilities = session.capabilities)) := by
  unfold command
  rw [Action.yields_mapError, Action.yields_onError, yields_onProbe]
  refine (keeps session.link.transport _ (Conversation.isPath.reached _)).imp ?_ ?_
  · intro _ transport reached
    exact ⟨transport, rfl, reached⟩
  · intro error transport reached
    split
    · next isBroken => exact .inl ⟨isBroken, ended_abandon reached⟩
    · next unbroken => exact .inr ⟨Bool.eq_false_iff.mpr unbroken, rfl, rfl⟩

/-- Afterwards it is known what the probe can do, or the session ended, or nothing changed but the
transport. -/
theorem queryCapabilities_ends (session : Session σ) :
    queryCapabilities.Yields session
      (fun capabilities next ↦ next.capabilities = some capabilities ∧
        next.link.state = session.link.state ∧
        Reached Conversation session.link.transport next.link.transport)
      (fun error next ↦ (error.isBroken = true ∧ session.Ended next) ∨
        (error.isBroken = false ∧ next.link.state = session.link.state ∧
          next.capabilities = session.capabilities)) := by
  unfold queryCapabilities
  rw [Action.yields_bind, Action.yields_get]
  split
  · next capabilities known => exact ⟨known, rfl, Conversation.isPath.reached _⟩
  · rw [Action.yields_bind]
    refine (command_ends session fun start ↦ Probe.queryCapabilities_keeps _ start).imp ?_
      (fun _ _ ended ↦ ended)
    rintro capabilities _ ⟨transport, rfl, reached⟩
    exact ⟨rfl, rfl, reached⟩

/-- A connect would have to disconnect first, and that fails. -/
def DisconnectFails (session : Session σ) : Prop :=
  session.link.state.isConnected = true ∧ ∃ error, (disconnect.outcome session).1 = .error error

/-- A protocol is refused because the probe cannot use it. -/
private theorem unbroken_of_refused {capabilities : Capabilities} {requested : WireProtocol}
    {allowFallback : Bool} {error : SessionError}
    (refused : chooseProtocol capabilities requested allowFallback = .error error) :
    error.isBroken = false := by
  unfold chooseProtocol at refused
  split at refused
  · nomatch refused
  · split at refused
    · nomatch refused
    · rw [← Except.error.inj refused]
      rfl

/-- Where nothing is connected, a connect that fails because an exchange broke ends the session. -/
private theorem connect_idle_ends {session idle : Session σ} (hint : Option WireProtocol)
    (closed : idle.link.state.isConnected = false)
    (reached : Reached Conversation session.link.transport idle.link.transport) :
    (do
      let capabilities ← queryCapabilities
      let config := (← get).config.session
      let protocol ← Action.ofExcept
        (chooseProtocol capabilities (hint.getD config.protocol) config.allowFallback)
      if config.targetSel.isSome && (!capabilities.multidrop || protocol != .swd) then
        throw .multidropUnsupported
      modifyState fun _ ↦ { status := .connecting }
      (establish capabilities protocol).onError fun _ session ↦ session.abandon
      modifyState fun state ↦ { state with status := .connected protocol }
      return protocol : Action (Session σ) SessionError WireProtocol).Yields idle
      (fun _ next ↦ next.capabilities.isSome = true)
      (fun error next ↦ next.link.state.isConnected = false ∧
        (error.isBroken = true → session.Ended next)) := by
  obtain ⟨deeds, before⟩ := reached
  rw [Action.yields_bind]
  refine (queryCapabilities_ends idle).imp ?_ ?_
  · rintro capabilities next ⟨known, same, more, after⟩
    have stillClosed : next.link.state.isConnected = false := by
      rw [same]
      exact closed
    have connecting (protocol : WireProtocol) :
        (do
          modifyState fun _ ↦ { status := .connecting }
          (establish capabilities protocol).onError fun _ session ↦ session.abandon
          modifyState fun state ↦ { state with status := .connected protocol }
          return protocol : Action (Session σ) SessionError WireProtocol).Yields next
          (fun _ next ↦ next.capabilities.isSome = true)
          (fun error next ↦ next.link.state.isConnected = false ∧
            (error.isBroken = true → session.Ended next)) := by
      rw [Action.yields_bind, yields_modifyState, Action.yields_bind, Action.yields_onError]
      -- Whatever was sent while connecting is drained when the session is abandoned.
      refine (establish_keeps capabilities protocol next
        { next with link.state := { status := .connecting } } ⟨[], .nil _, rfl⟩).imp ?_ ?_
      · rintro _ last ⟨-, -, told⟩
        show last.capabilities.isSome = true
        rw [told, known]
        rfl
      · rintro error last ⟨late, conversation, -⟩
        exact ⟨rfl, fun _ ↦ ended_abandon ⟨_, (before.append after).append conversation⟩⟩
    rw [Action.yields_bind, Action.yields_get, Action.yields_bind, Action.yields_ofExcept]
    split
    · next protocol chosen =>
      rw [Action.yields_ite]
      refine ⟨fun _ ↦ ⟨stillClosed, nofun⟩, fun _ ↦ connecting protocol⟩
    · next error refused =>
      refine ⟨stillClosed, fun isBroken ↦ ?_⟩
      rw [unbroken_of_refused refused] at isBroken
      nomatch isBroken
  · rintro error next (⟨-, state, more, drained⟩ | ⟨unbroken, same, -⟩)
    · refine ⟨?_, fun _ ↦ ⟨state, deeds ++ more, ?_⟩⟩
      · rw [state]
        rfl
      · rw [List.append_assoc]
        exact before.append drained
    · refine ⟨?_, fun isBroken ↦ ?_⟩
      · rw [same]
        exact closed
      · rw [unbroken] at isBroken
        nomatch isBroken

/-- However a connect fails, nothing is connected. If an exchange broke then the session ended,
unless it was the disconnect before it that failed. -/
theorem connect_ends (session : Session σ) (hint : Option WireProtocol) :
    (connect hint).Yields session
      (fun _ next ↦ next.capabilities.isSome = true)
      (fun error next ↦ session.DisconnectFails ∧ session.Left next ∨
        ¬session.DisconnectFails ∧ next.link.state.isConnected = false ∧
          (error.isBroken = true → session.Ended next)) := by
  unfold connect
  rw [Action.yields_bind, Action.yields_get, Action.yields_ite]
  constructor
  · intro connected
    rw [Action.yields_bind]
    refine (disconnect_leaves session).with_outcome.imp ?_ ?_
    · rintro _ idle ⟨⟨⟨turns, conversation⟩, closed⟩, succeeded⟩
      have done : ¬session.DisconnectFails := by
        rintro ⟨-, error, failed⟩
        rw [succeeded] at failed
        nomatch failed
      exact (connect_idle_ends hint closed ⟨_, conversation⟩).imp (fun _ _ told ↦ told)
        (fun _ _ ends ↦ .inr ⟨done, ends⟩)
    · rintro error next ⟨left, failed⟩
      exact .inl ⟨⟨connected, error, congrArg Prod.fst failed⟩, left⟩
  · intro closed
    exact (connect_idle_ends hint (Bool.eq_false_iff.mpr closed)
      (Conversation.isPath.reached _)).imp (fun _ _ told ↦ told)
        (fun _ _ ends ↦ .inr ⟨fun fails ↦ closed fails.1, ends⟩)

end Session

end DebugProbe
