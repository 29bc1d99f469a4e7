import DebugProbe.Proofs.Link.Governed
import DebugProbe.Proofs.Session.Connect

/-!
# Sessions keep to a regime

As soon as a session knows what its probe can do, every call keeps to any regime that its link keeps
to: whatever the transport answers, the call sends what the regime admits and fails as the regime
expects. What is known of the connection is kept too, if it is so of a link that is down and of one
that a connect has just brought up. The capabilities and the configuration stay what they are.
-/

namespace DebugProbe

open DebugProbe.Action
  (guards_pure guards_throw guards_ofExcept guards_update guards_get_bind guards_ite)

/-- A failure that comes from a command is an expected one. -/
def SessionError.Bears (expected : CommandError → Prop) : SessionError → Prop
  | command error => expected error
  | operation error => error.cause.Bears expected
  | _ => True

/-- Whether the call begins by asking what the probe can do, unless that is known. -/
def SessionCall.asks : SessionCall → Bool
  | call (.connect _) | queryCapabilities | setClock _ => true
  | _ => false

/-- The state that a connect leaves when it succeeds, as far as accesses do not change it. -/
def LinkState.Arrived (config : Config) (capabilities : Capabilities) (protocol : WireProtocol)
    (status : LinkStatus) (state : LinkState) : Prop :=
  ∃ word, state = {
    status
    clock := some (min config.session.clock capabilities.maxClock)
    dpidr := some word
    dapIndex := config.dapIndex protocol }

/-- What is known of a connection lasts while registers are accessed and the link may be given
up. -/
structure LinkState.Lasting (known : LinkState → Prop) : Prop where
  blank : known {}
  identified : ∀ {state : LinkState} (word : UInt32), known state →
    known { state with dpidr := some word }

variable {σ : Type} [Transport σ]

/-- A regime holds on the link of a session, which has a configuration and knows of its probe what
`told` tells. -/
structure Session.Within (regime : Regime σ) (known : LinkState → Prop) (config : Config)
    (told : Option Capabilities) (session : Session σ) : Prop where
  link : session.link.Within regime known
  config : session.config = config
  told : session.capabilities = told

namespace Regime

open Session (Within)

variable (regime : Regime σ) {known other : LinkState → Prop} {config : Config}
  {told : Option Capabilities}

section Steps

variable {regime} {α : Type} {session : Session σ}

theorem within_mono (within : session.Within regime known config told)
    (weaker : ∀ state, known state → other state) : session.Within regime other config told :=
  ⟨⟨within.link.transport, weaker _ within.link.known, within.link.batch⟩, within.config,
    within.told⟩

/-- A session of which nothing is known any more keeps to its regime. -/
theorem within_reset (blank : other {}) (within : session.Within regime known config told) :
    session.reset.Within regime other config told :=
  ⟨⟨within.link.transport, blank, (within_discard within.link).batch⟩, within.config, within.told⟩

theorem within_abandon (blank : other {}) (within : session.Within regime known config told) :
    session.abandon.Within regime other config told :=
  ⟨⟨regime.drain _ within.link.transport, blank, (within_discard within.link).batch⟩,
    within.config, within.told⟩

theorem within_afterFailure (blank : known {}) (broken : Bool)
    (within : session.Within regime known config told) :
    (session.afterFailure broken).Within regime known config told := by
  cases broken with
  | true => exact within_abandon blank within
  | false => exact within

/-- The state of a connection may be changed to one of which something else is known. -/
theorem yields_modified {change : LinkState → LinkState} {ε : Type}
    {failed : ε → Session σ → Prop} (within : session.Within regime known config told)
    (changes : ∀ state : LinkState, known state.bearings → other (change state).bearings) :
    (Session.modifyState change).Yields session
      (fun _ ↦ Within regime other config told) failed :=
  ⟨⟨within.link.transport, changes _ within.link.known, within.link.batch⟩, within.config,
    within.told⟩

theorem governs_onLink {action : Action (Link σ) AccessError α}
    (governs : regime.GovernsLink known action) :
    (Session.onLink action).Guards (Within regime known config told)
      (AccessError.Bears regime.expects) := by
  intro session within
  rw [Session.yields_onLink]
  refine (governs session.link within.link).imp ?_ ?_
  · intro _ link kept
    exact ⟨kept, within.config, within.told⟩
  · rintro error link ⟨bears, kept⟩
    exact ⟨bears, kept, within.config, within.told⟩

theorem governs_onProbe {action : Action σ CommandError α} (governs : regime.Governs action) :
    (Session.onProbe action).Guards (Within regime known config told) regime.expects := by
  intro session within
  rw [Session.yields_onProbe]
  refine (governs session.link.transport within.link.transport).imp ?_ ?_
  · intro _ transport holds
    exact ⟨⟨holds, within.link.known, within.link.batch⟩, within.config, within.told⟩
  · rintro error transport ⟨isExpected, holds⟩
    exact ⟨isExpected, ⟨holds, within.link.known, within.link.batch⟩, within.config, within.told⟩

theorem governs_operate (blank : known {}) {operation : Operation}
    {action : Action (Session σ) AccessError α}
    (guards : action.Guards (Within regime known config told) (AccessError.Bears regime.expects)) :
    (Session.whole (Session.operate operation action)).Guards (Within regime known config told)
      (SessionError.Bears regime.expects) := by
  refine Action.Guards.mapError (Action.Guards.map (fun session within ↦ ?_))
  rw [Session.yields_operate]
  refine (guards session within).imp (fun _ _ kept ↦ kept) ?_
  rintro error next ⟨bears, kept⟩
  exact ⟨bears, within_afterFailure blank _ kept⟩

theorem governs_sessionCommand (blank : known {}) {action : Action σ CommandError α}
    (governs : regime.Governs action) :
    (Session.command action).Guards (Within regime known config told)
      (SessionError.Bears regime.expects) :=
  Action.Guards.mapError ((governs_onProbe governs).onError fun error _ within ↦
    within_afterFailure blank error.isBroken within)

end Steps

section Accesses

variable (lasting : LinkState.Lasting known)
include lasting

private theorem recoverLine :
    Session.recoverLine.Guards (Within regime known config told)
      (AccessError.Bears regime.expects) := by
  refine guards_get_bind fun session _ ↦ ?_
  refine (governs_onLink (governs_command (regime.recoverySequences _ _))).bind fun _ ↦ ?_
  refine Action.Guards.bind (fun _ within ↦ yields_modified within fun _ known ↦ known) fun _ ↦ ?_
  refine (governs_onLink (regime.readRegister known _ _)).bind fun word ↦ ?_
  exact fun _ within ↦ yields_modified within fun _ ↦ lasting.identified word

private theorem prepare :
    Session.prepare.Guards (Within regime known config told)
      (AccessError.Bears regime.expects) := by
  have recovering : (get >>= fun session : Session σ ↦
      if session.link.state.lineResetPending then Session.recoverLine else pure ()).Guards
        (Within regime known config told) (AccessError.Bears regime.expects) :=
    guards_get_bind fun _ _ ↦
      guards_ite (fun _ ↦ regime.recoverLine lasting) fun _ ↦ guards_pure ()
  have clearing (session : Session σ) :
      (if session.link.state.stickyError && session.config.session.autoClearSticky then
        Session.onLink Link.clearStickyErrors >>= fun _ ↦ get >>= fun session : Session σ ↦
          if session.link.state.lineResetPending then Session.recoverLine else pure ()
      else get >>= fun session : Session σ ↦
        if session.link.state.lineResetPending then Session.recoverLine else pure ()).Guards
        (Within regime known config told) (AccessError.Bears regime.expects) :=
    guards_ite (fun _ ↦ (governs_onLink (regime.clearStickyErrors known)).bind fun _ ↦ recovering)
      fun _ ↦ recovering
  exact guards_get_bind fun session _ ↦ guards_ite
    (fun _ ↦ (guards_throw trivial).bind fun _ ↦ clearing session) fun _ ↦ clearing session

private theorem read (operation : Operation) {register : Except AccessError RegisterAddress}
    (valid : ∀ error, register = .error error → error.Bears regime.expects) :
    (Session.whole (Session.read operation register)).Guards (Within regime known config told)
      (SessionError.Bears regime.expects) :=
  governs_operate lasting.blank ((regime.prepare lasting).bind fun _ ↦ guards_get_bind
    fun _ _ ↦ (guards_ofExcept valid).bind fun _ ↦ governs_onLink (regime.readRegister known _ _))

private theorem write (operation : Operation) {register : Except AccessError RegisterAddress}
    (valid : ∀ error, register = .error error → error.Bears regime.expects) (value : UInt32) :
    (Session.whole (Session.write operation register value)).Guards
      (Within regime known config told) (SessionError.Bears regime.expects) :=
  governs_operate lasting.blank ((regime.prepare lasting).bind fun _ ↦ guards_get_bind fun _ _ ↦
    (guards_ofExcept valid).bind fun _ ↦ governs_onLink (regime.writeRegister known _ _ value))

omit lasting in
private theorem bears_debugRegister (address : UInt8) (error : AccessError)
    (failed : Session.debugRegister address = .error error) : error.Bears regime.expects := by
  unfold Session.debugRegister at failed
  split at failed
  · nomatch failed
  · rw [← Except.error.inj failed]
    trivial

omit lasting in
private theorem bears_accessRegister (address : UInt32) (error : AccessError)
    (failed : Session.accessRegister address = .error error) : error.Bears regime.expects := by
  unfold Session.accessRegister at failed
  split at failed
  · nomatch failed
  · rw [← Except.error.inj failed]
    trivial

private theorem queue (access : RegisterAccess) :
    (Session.whole (Session.queue access)).Guards (Within regime known config told)
      (SessionError.Bears regime.expects) := by
  have queueing : (Session.onProbe Probe.packetSize >>= fun size ↦
      Session.onLink (Link.queue size access)).Guards (Within regime known config told)
        (AccessError.Bears regime.expects) := by
    intro session within
    rw [Action.yields_bind, Session.yields_onProbe]
    show (Session.onLink (Link.queue (Transport.packetSize session.link.transport) access)).Yields
      session _ _
    rw [Session.yields_onLink]
    refine (queue_sized _ access session.link ⟨within.link, rfl⟩).imp ?_ ?_
    · rintro _ link ⟨kept, -⟩
      exact ⟨kept, within.config, within.told⟩
    · rintro error link ⟨bears, kept, -⟩
      exact ⟨bears, kept, within.config, within.told⟩
  refine governs_operate lasting.blank (guards_get_bind fun session _ ↦ ?_)
  exact guards_ite (fun _ ↦ (regime.prepare lasting).bind fun _ ↦ queueing) fun _ ↦ queueing

private theorem abort :
    (Session.whole Session.abortTransfer).Guards (Within regime known config told)
      (SessionError.Bears regime.expects) := by
  refine governs_operate lasting.blank ?_
  refine (governs_onLink (regime.abortTransferLink known)).attempt_bind fun result bears ↦ ?_
  exact (governs_onLink governs_forgetSelect).bind fun _ ↦ guards_ofExcept bears

private theorem readMemory (address : UInt32) (size : Nat) :
    (Session.whole (Session.readMemory address size)).Guards (Within regime known config told)
      (SessionError.Bears regime.expects) :=
  governs_operate lasting.blank ((regime.prepare lasting).bind fun _ ↦ guards_get_bind
    fun _ _ ↦ governs_onLink (regime.readSpans known _ _ _))

private theorem writeMemory (address : UInt32) (data : Bytes) :
    (Session.whole (Session.writeMemory address data)).Guards (Within regime known config told)
      (SessionError.Bears regime.expects) :=
  governs_operate lasting.blank ((regime.prepare lasting).bind fun _ ↦ guards_get_bind
    fun _ _ ↦ governs_onLink (regime.writeSpans known _ _ _ data))

theorem disconnectSession :
    Session.disconnect.Guards (Within regime known config told)
      (SessionError.Bears regime.expects) := by
  refine guards_get_bind fun session _ ↦ guards_ite (fun _ ↦ guards_pure ()) fun _ ↦ ?_
  refine (governs_onProbe (regime.hostStatus false)).attempt_bind fun told toldBears ↦ ?_
  refine (governs_onProbe regime.disconnect).attempt_bind fun released releasedBears ↦ ?_
  refine Action.Guards.bind (guards_update fun _ ↦ within_reset lasting.blank) fun _ ↦
    Action.Guards.mapError (guards_ofExcept fun error failed ↦ ?_)
  cases told with
  | error cause => exact toldBears error failed
  | ok _ => exact releasedBears error failed

/-- Every call that need not know what the probe can do keeps to the regime. -/
theorem directCall {call : SessionCall} (direct : call.asks = false) :
    call.action.Guards (Within regime known config told) (SessionError.Bears regime.expects) := by
  cases call with
  | call asked =>
    cases asked with
    | connect hint => nomatch direct
    | disconnect => exact regime.disconnectSession lasting
    | readDp address => exact regime.read lasting _ (regime.bears_debugRegister address)
    | writeDp address value =>
      exact regime.write lasting _ (regime.bears_debugRegister address) value
    | readAp address => exact regime.read lasting _ (regime.bears_accessRegister address)
    | writeAp address value =>
      exact regime.write lasting _ (regime.bears_accessRegister address) value
    | readMemory address size => exact regime.readMemory lasting address size
    | writeMemory address data => exact regime.writeMemory lasting address data
    | queue access => exact regime.queue lasting access
    | flush =>
      exact governs_operate lasting.blank (guards_get_bind fun _ _ ↦
        governs_onLink (regime.flush known _))
    | clearStickyErrors =>
      exact governs_operate lasting.blank (governs_onLink (regime.clearStickyErrors known))
    | abortTransfer => exact regime.abort lasting
  | queryCapabilities => nomatch direct
  | identify => exact (governs_sessionCommand lasting.blank regime.identify).map
  | setClock hertz => nomatch direct
  | resetTarget => exact governs_sessionCommand lasting.blank regime.resetTarget
  | setResetPin level =>
    exact (governs_sessionCommand lasting.blank (regime.setResetPin level)).bind
      fun _ ↦ guards_pure ()

end Accesses

end Regime

end DebugProbe
