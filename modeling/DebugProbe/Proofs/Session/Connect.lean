import DebugProbe.Proofs.Session.Operations
import DebugProbe.Proofs.Session.Phases

/-!
# What a connect and a disconnect do

A connect asks what the probe can do, unless that is known. It is refused if the probe can use
neither protocol, or cannot select the target; nothing else is exchanged then. Otherwise it goes
through its phases. However it fails, nothing is connected and nothing waits, and if it had begun
with its phases then the transport is drained in the end.

A disconnect only speaks with the probe. A session that is connected is disconnected first.
-/

namespace DebugProbe

/-- The protocol that a connect uses, or why it is refused. -/
def Config.selectProtocol (config : Config) (capabilities : Capabilities)
    (hint : Option WireProtocol) : Except SessionError WireProtocol := do
  let protocol ← Session.chooseProtocol capabilities (hint.getD config.session.protocol)
    config.session.allowFallback
  if config.session.targetSel.isSome && (!capabilities.multidrop || protocol != .swd) then
    throw .multidropUnsupported
  return protocol

variable {σ : Type} [Transport σ]

namespace Session

/-- The courses that a connect can take, with what is known of the probe afterwards and the result.
-/
inductive Connects (config : Config) (hint : Option WireProtocol) :
    Option Capabilities → Except SessionError WireProtocol → List Deed → Prop
  /-- The probe does not tell what it can do. -/
  | unknown {error : SessionError} {asking : List Deed} (unrefused : error.isRefusal = false)
      (inquires : ∀ turn, .turn turn ∈ asking → turn.request.isInquiry = true) :
      Connects config hint none (.error error)
        (if error.isBroken then asking ++ [.drain] else asking)
  /-- The probe can use neither protocol, or cannot select the target. -/
  | refused {error : SessionError} {asking : List Deed} {capabilities : Capabilities}
      (inquires : ∀ turn, .turn turn ∈ asking → turn.request.isInquiry = true)
      (refusal : config.selectProtocol capabilities hint = .error error) :
      Connects config hint (some capabilities) (.error error) asking
  /-- One of the phases fails. -/
  | foundered {error : SessionError} {asking : List Deed} {capabilities : Capabilities}
      {protocol : WireProtocol} {phases : ConnectPhases}
      (inquires : ∀ turn, .turn turn ∈ asking → turn.request.isInquiry = true)
      (chosen : config.selectProtocol capabilities hint = .ok protocol)
      (taken : phases.Taken config capabilities protocol) (untold : ¬phases.Told)
      (unrefused : error.isRefusal = false) :
      Connects config hint (some capabilities) (.error error)
        (asking ++ phases.turns.map .turn ++ [.drain])
  /-- All phases succeed. -/
  | done {asking : List Deed} {capabilities : Capabilities} {protocol : WireProtocol}
      {phases : ConnectPhases}
      (inquires : ∀ turn, .turn turn ∈ asking → turn.request.isInquiry = true)
      (chosen : config.selectProtocol capabilities hint = .ok protocol)
      (taken : phases.Taken config capabilities protocol) (told : phases.Told) :
      Connects config hint (some capabilities) (.ok protocol) (asking ++ phases.turns.map .turn)

/-- A connect succeeded by one of its courses. -/
structure ConnectSucceeds (session : Session σ) (hint : Option WireProtocol)
    (protocol : WireProtocol) (deeds : List Deed) (next : Session σ) : Prop where
  course : Connects session.config hint next.capabilities (.ok protocol) deeds
  conversation : Conversation session.link.transport deeds next.link.transport
  status : next.link.state.status = .connected protocol
  quiet : next.link.Quiet
  config : next.config = session.config
  /-- The answer to the read of the identification fits into a packet. -/
  room : SteadySize σ → 7 ≤ Transport.packetSize next.link.transport

/-- A connect failed by one of its courses. -/
structure ConnectFails (session : Session σ) (hint : Option WireProtocol)
    (error : SessionError) (deeds : List Deed) (next : Session σ) : Prop where
  course : Connects session.config hint next.capabilities (.error error) deeds
  conversation : Conversation session.link.transport deeds next.link.transport
  blank : next.Blank
  config : next.config = session.config

/-- Asking what the probe can do is not refused. -/
private theorem yields_queryCapabilities_unrefused {session : Session σ} :
    queryCapabilities.Yields session (fun _ _ ↦ True)
      (fun error next ↦ error.isRefusal = false ∧ next.capabilities = none) := by
  unfold queryCapabilities command
  rw [Action.yields_bind, Action.yields_get]
  split
  · trivial
  · next unknown =>
    rw [Action.yields_bind, Action.yields_mapError, Action.yields_onError, yields_onProbe]
    refine Action.yields_iff.mpr ⟨fun _ _ _ ↦ trivial, fun error _ _ ↦ ⟨rfl, ?_⟩⟩
    split
    · exact unknown
    · exact unknown

omit [Transport σ] in
/-- The protocol is selected in two steps. -/
theorem selectProtocol_cases (config : Config) (capabilities : Capabilities)
    (hint : Option WireProtocol) :
    (∃ error, chooseProtocol capabilities (hint.getD config.session.protocol)
        config.session.allowFallback = .error error ∧
      config.selectProtocol capabilities hint = .error error) ∨
    ∃ protocol, chooseProtocol capabilities (hint.getD config.session.protocol)
        config.session.allowFallback = .ok protocol ∧
      config.selectProtocol capabilities hint =
        if config.session.targetSel.isSome && (!capabilities.multidrop || protocol != .swd) then
          .error .multidropUnsupported else .ok protocol := by
  unfold Config.selectProtocol
  cases chosen : chooseProtocol capabilities (hint.getD config.session.protocol)
      config.session.allowFallback with
  | error error => exact .inl ⟨error, rfl, rfl⟩
  | ok protocol =>
    refine .inr ⟨protocol, rfl, ?_⟩
    show (if _ then _ else _) = _
    split <;> rfl

omit [Transport σ] in
/-- A target is selected with the protocol that can do that. -/
theorem possible_of_selected {config : Config} {capabilities : Capabilities}
    {hint : Option WireProtocol} {protocol : WireProtocol}
    (chosen : config.selectProtocol capabilities hint = .ok protocol) :
    config.session.targetSel = none ∨ protocol = .swd := by
  rcases selectProtocol_cases config capabilities hint with
    ⟨error, -, selected⟩ | ⟨other, -, selected⟩
  · rw [selected] at chosen
    nomatch chosen
  · rw [selected] at chosen
    split at chosen
    · nomatch chosen
    · next possible =>
      obtain rfl := Except.ok.inj chosen
      cases target : config.session.targetSel with
      | none => exact .inl rfl
      | some targetSel =>
        simp only [target, Option.isSome_some, Bool.true_and, Bool.or_eq_true, not_or] at possible
        exact .inr (by simpa using possible.2)

omit [Transport σ] in
/-- A session of which only what it knows of the probe changed is as blank as before. -/
private theorem Blank.probed {session : Session σ} (blank : session.Blank) (transport : σ)
    (capabilities : Option Capabilities) :
    ({ session with link.transport := transport, capabilities } : Session σ).Blank :=
  ⟨blank.batch, blank.state⟩

theorem blank_abandon (session : Session σ) : session.abandon.Blank := ⟨rfl, rfl⟩

/-- With its protocol selected, a connect goes through its phases. -/
private theorem yields_establish {session start : Session σ} {asking : List Deed}
    (blank : start.Blank) (config : start.config = session.config)
    {capabilities : Capabilities} (known : start.capabilities = some capabilities)
    (asked : Asked (·.isInquiry = true) session.link.transport asking start.link.transport)
    {hint : Option WireProtocol} {protocol : WireProtocol}
    (chosen : session.config.selectProtocol capabilities hint = .ok protocol) :
    (do
      modifyState fun _ ↦ { status := .connecting }
      (establish capabilities protocol).onError fun _ session ↦ session.abandon
      modifyState fun state ↦ { state with status := .connected protocol }
      return protocol : Action (Session σ) SessionError WireProtocol).Yields start
      (fun protocol next ↦ ∃ deeds, session.ConnectSucceeds hint protocol deeds next)
      (fun error next ↦ ∃ deeds, session.ConnectFails hint error deeds next) := by
  have possible : start.config.session.targetSel = none ∨ protocol = .swd := by
    rw [config]
    exact possible_of_selected chosen
  have concludes := @establish_concludes σ _ capabilities protocol
    { start with link.state := { status := .connecting } } blank.batch rfl possible
  have told := establish_keeps capabilities protocol { start with
    link.state := { status := .connecting } } _ ⟨[], .nil _, rfl⟩
  rw [Action.yields_bind, yields_modifyState, Action.yields_bind, Action.yields_onError]
  refine (concludes.and told).imp ?_ ?_
  · rintro _ next ⟨⟨phases, going, told⟩, -, -, same⟩
    have taken := going.taken
    have quiet := going.quiet
    have course := Connects.done asked.requests chosen (config ▸ taken) told
    rw [← known, ← same] at course
    refine ⟨_, course, asked.conversation.append going.conversation, rfl,
      ⟨quiet.batch, quiet.sticky, quiet.pending⟩, going.config.trans config, fun steady ↦ ?_⟩
    rw [steady.turns going.conversation]
    exact going.room steady (taken.read told)
  · rintro error next ⟨⟨unrefused, same, phases, taken, untold, conversation⟩, -, -, capabilities⟩
    have course := Connects.foundered asked.requests chosen (config ▸ taken) untold unrefused
    rw [← known, ← capabilities] at course
    exact ⟨_, course, (asked.conversation.append conversation).append (.drain (.nil _)),
      blank_abandon next, same.trans config⟩

/-- Where nothing is connected, a connect takes one of its courses. -/
theorem connect_connects {session : Session σ} (blank : session.Blank)
    (hint : Option WireProtocol) :
    (connect hint).Yields session
      (fun protocol next ↦ ∃ deeds, session.ConnectSucceeds hint protocol deeds next)
      (fun error next ↦ ∃ deeds, session.ConnectFails hint error deeds next) := by
  have closed : session.link.state.isConnected = false := by
    rw [blank.state]
    rfl
  unfold connect
  simp only [Action.yields_bind, Action.yields_get, closed]
  rw [if_neg Bool.false_ne_true, Action.yields_bind]
  have queried := (@yields_queryCapabilities σ _ session).and yields_queryCapabilities_unrefused
  refine queried.imp ?_ ?_
  · rintro capabilities _ ⟨⟨asking, transport, asked, rfl⟩, -⟩
    have blank := blank.probed transport (some capabilities)
    have refused {error : SessionError}
        (refusal : session.config.selectProtocol capabilities hint = .error error) :
        ∃ deeds, session.ConnectFails hint error deeds { session with
          link.transport := transport, capabilities := some capabilities } :=
      ⟨asking, .refused asked.requests refusal, asked.conversation, blank, rfl⟩
    simp only [Action.yields_bind, Action.yields_get, Action.yields_ofExcept]
    rcases selectProtocol_cases session.config capabilities hint with
      ⟨error, chosen, selected⟩ | ⟨protocol, chosen, selected⟩
    · rw [chosen]
      exact refused selected
    · rw [chosen]
      dsimp only
      split
      · next impossible =>
        rw [if_pos impossible] at selected
        exact refused selected
      · next possible =>
        rw [if_neg possible] at selected
        exact @yields_establish σ _ session _ asking blank rfl _ rfl asked hint _ selected
  · rintro error _ ⟨⟨asking, transport, asked, rfl⟩, unrefused, unknown⟩
    have course : Connects session.config hint none (.error error)
        (if error.isBroken then asking ++ [.drain] else asking) :=
      .unknown unrefused asked.requests
    cases broken : error.isBroken with
    | true =>
      rw [broken] at course unknown
      exact ⟨asking ++ [.drain], unknown ▸ course, asked.conversation.append (.drain (.nil _)),
        blank_abandon _, rfl⟩
    | false =>
      rw [broken] at course unknown
      exact ⟨asking, unknown ▸ course, asked.conversation, blank.probed transport _, rfl⟩

/-- The session left its target: the probe was spoken with, and nothing is known of the target. -/
structure Parts (session : Session σ) (deeds : List Deed) (next : Session σ) : Prop where
  asked : Asked (·.isAside = true) session.link.transport deeds next.link.transport
  blank : next.Blank
  config : next.config = session.config

/-- However a disconnect ends, the session leaves its target. -/
theorem disconnect_parts {session : Session σ}
    (blank : session.link.state.isConnected = false → session.Blank) :
    disconnect.Yields session (fun _ next ↦ ∃ deeds, session.Parts deeds next)
      (fun _ next ↦ ∃ deeds, session.Parts deeds next) := by
  have telling : (Probe.hostStatus (σ := σ) false).Asks (·.isAside = true) := Probe.send_asks rfl
  have releasing : (Probe.disconnect (σ := σ)).Asks (·.isAside = true) := by
    have sends : (Probe.send (σ := σ) .disconnect).Asks (·.isAside = true) := Probe.send_asks rfl
    exact sends.bind fun status ↦ Probe.accept_asks status _
  -- The port is released whether or not the host status was taken.
  have released (told : Except CommandError Unit) {transport : σ} {early : List Deed}
      (asked : Asked (·.isAside = true) session.link.transport early transport) :
      (do
        let released ← (onProbe Probe.disconnect).attempt
        Action.update reset
        (Action.ofExcept (told.bind fun _ ↦ released)).mapError .command :
        Action (Session σ) SessionError Unit).Yields { session with link.transport := transport }
        (fun _ next ↦ ∃ deeds, session.Parts deeds next)
        (fun _ next ↦ ∃ deeds, session.Parts deeds next) := by
    have parts {last : σ} (late : ∃ deeds, Asked (·.isAside = true) transport deeds last) :
        ∃ deeds, session.Parts deeds
          ({ session with link.transport := last } : Session σ).reset := by
      obtain ⟨deeds, asked'⟩ := late
      exact ⟨_, Asked.isPath.append asked asked', ⟨rfl, rfl⟩, rfl⟩
    rw [Action.yields_bind, Action.yields_attempt, yields_onProbe]
    refine (releasing.yields transport).imp ?_ ?_
    · intro _ last late
      rw [Action.yields_bind, Action.yields_update, Action.yields_mapError,
        Action.yields_ofExcept]
      split
      · exact parts late
      · exact parts late
    · intro _ last late
      rw [Action.yields_bind, Action.yields_update, Action.yields_mapError,
        Action.yields_ofExcept]
      split
      · exact parts late
      · exact parts late
  unfold disconnect
  rw [Action.yields_bind, Action.yields_get, Action.yields_ite]
  constructor
  · intro disconnected
    exact ⟨[], Asked.isPath.nil _, blank (LinkState.isConnected_of_disconnected disconnected), rfl⟩
  · intro _
    rw [Action.yields_bind, Action.yields_attempt, yields_onProbe]
    exact (telling.yields session.link.transport).imp
      (fun _ _ ⟨_, asked⟩ ↦ released _ asked) (fun _ _ ⟨_, asked⟩ ↦ released _ asked)

/-- A connect takes one of its courses once the session left the target that it had. -/
theorem connect_parts_connects {session : Session σ}
    (blank : session.link.state.isConnected = false → session.Blank)
    (hint : Option WireProtocol) :
    (connect hint).Yields session
      (fun protocol next ↦ ∃ closing idle deeds, session.Parts closing idle ∧
        idle.ConnectSucceeds hint protocol deeds next)
      (fun error next ↦ (∃ closing, session.Parts closing next) ∨
        ∃ closing idle deeds, session.Parts closing idle ∧
          idle.ConnectFails hint error deeds next) := by
  cases connected : session.link.state.isConnected with
  | false =>
    have parts : session.Parts [] session := ⟨Asked.isPath.nil _, blank connected, rfl⟩
    refine (connect_connects (blank connected) hint).imp ?_ ?_
    · rintro protocol next ⟨deeds, succeeds⟩
      exact ⟨[], session, deeds, parts, succeeds⟩
    · rintro error next ⟨deeds, fails⟩
      exact .inr ⟨[], session, deeds, parts, fails⟩
  | true =>
    unfold connect
    rw [Action.yields_bind, Action.yields_get, Action.yields_ite]
    refine ⟨fun _ ↦ ?_, absurd connected⟩
    rw [Action.yields_bind]
    refine (disconnect_parts blank).imp ?_ ?_
    · -- Once disconnected, it goes on as a connect that starts there.
      rintro _ idle ⟨closing, parts⟩
      have later := connect_connects parts.blank hint
      unfold connect at later
      rw [Action.yields_bind, Action.yields_get, Action.yields_ite] at later
      have closed : ¬idle.link.state.isConnected = true := by
        rw [parts.blank.state]
        nofun
      refine (later.2 closed).imp ?_ ?_
      · rintro protocol next ⟨deeds, succeeds⟩
        exact ⟨closing, idle, deeds, parts, succeeds⟩
      · rintro error next ⟨deeds, fails⟩
        exact .inr ⟨closing, idle, deeds, parts, fails⟩
    · rintro error next ⟨closing, parts⟩
      exact .inl ⟨closing, parts⟩

end Session

end DebugProbe
