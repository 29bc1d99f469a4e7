import DebugProbe.Proofs.Session.Governed

/-!
# Connects keep to a regime

A connect that starts from what is known of the probe keeps to the regime of its link. It succeeds
with the protocol that is to be selected, and then everything that a connection consists of is in
place: the clock, the position of the debug port and its identification. If it fails then nothing
is connected. A session that knows nothing of its probe asks first and goes on from there.
-/

namespace DebugProbe

open DebugProbe.Action (guards_pure guards_throw guards_ofExcept guards_get_bind guards_ite)

/-- What is known of a connection lasts through a call of a session that knows its probe. -/
structure LinkState.Enduring (known : LinkState → Prop) (config : Config)
    (capabilities : Capabilities) (call : SessionCall) : Prop extends
    LinkState.Lasting known where
  clocked : ∀ (state : LinkState) (hertz : UInt32), known state →
    known { state with clock := some (min hertz capabilities.maxClock) }
  arrived : ∀ hint protocol state, call = .call (.connect hint) →
    config.selectProtocol capabilities hint = .ok protocol →
    LinkState.Arrived config capabilities protocol (.connected protocol) state → known state

/-- Where nothing need be known of a connection nothing can be lost. -/
theorem LinkState.enduring_true (config : Config) (capabilities : Capabilities)
    (call : SessionCall) : LinkState.Enduring (fun _ ↦ True) config capabilities call where
  blank := trivial
  identified := fun _ _ ↦ trivial
  clocked := fun _ _ _ ↦ trivial
  arrived := fun _ _ _ _ _ _ ↦ trivial

variable {σ : Type} [Transport σ]

namespace Session

variable {session : Session σ} {α : Type}

/-- A session that knows what its probe can do does not ask. -/
theorem yields_queryCapabilities_of_known {capabilities : Capabilities}
    (known : session.capabilities = some capabilities)
    {done : Capabilities → Session σ → Prop} {failed : SessionError → Session σ → Prop} :
    queryCapabilities.Yields session done failed ↔ done capabilities session := by
  unfold queryCapabilities
  rw [Action.yields_bind, Action.yields_get, known]
  exact Action.yields_pure

/-- A session that does not know what its probe can do asks, and then it knows. -/
theorem yields_queryCapabilities_of_unknown (unknown : session.capabilities = none)
    {done : Capabilities → Session σ → Prop} {failed : SessionError → Session σ → Prop} :
    queryCapabilities.Yields session done failed ↔
      (Probe.queryCapabilities session.config.probe.maxClock).Yields session.link.transport
        (fun capabilities transport ↦ done capabilities { session with
          link.transport := transport, capabilities := some capabilities })
        (fun error transport ↦ failed (.command error)
          (({ session with link.transport := transport } : Session σ).afterFailure
            error.isBroken)) := by
  obtain ⟨link, config, told⟩ := session
  obtain rfl : told = none := unknown
  unfold queryCapabilities command
  rw [Action.yields_bind, Action.yields_get]
  dsimp only
  rw [Action.yields_bind, Action.yields_mapError, Action.yields_onError, yields_onProbe]
  exact Iff.rfl

/-- What begins by asking may begin by asking twice. -/
private theorem yields_asking {next : Capabilities → Action (Session σ) SessionError α}
    {done : α → Session σ → Prop} {failed : SessionError → Session σ → Prop}
    (asks : queryCapabilities.Yields session
      (fun _ told ↦ (queryCapabilities >>= next).Yields told done failed) failed) :
    (queryCapabilities >>= next).Yields session done failed := by
  rw [Action.yields_bind]
  refine (asks.and (queryCapabilities_ends session)).imp ?_ fun _ _ ⟨failed, _⟩ ↦ failed
  rintro capabilities told ⟨goes, known, -⟩
  rw [Action.yields_bind, yields_queryCapabilities_of_known known] at goes
  exact goes

/-- The last part of a connect, once the protocol is selected. -/
def enter (capabilities : Capabilities) (protocol : WireProtocol) :
    Action (Session σ) SessionError WireProtocol := do
  modifyState fun _ ↦ { status := .connecting }
  (establish capabilities protocol).onError fun _ session ↦ session.abandon
  modifyState fun state ↦ { state with status := .connected protocol }
  return protocol

/-- The part of a connect that comes after what the probe can do is known. -/
def selectAndEnter (hint : Option WireProtocol) (capabilities : Capabilities) :
    Action (Session σ) SessionError WireProtocol := do
  let config := (← get).config.session
  let protocol ← Action.ofExcept
    (chooseProtocol capabilities (hint.getD config.protocol) config.allowFallback)
  if config.targetSel.isSome && (!capabilities.multidrop || protocol != .swd) then
    throw .multidropUnsupported
  enter capabilities protocol

/-- Where nothing is connected a connect begins by asking. -/
private theorem yields_connect_closed (closed : session.link.state.isConnected = false)
    {hint : Option WireProtocol} {done : WireProtocol → Session σ → Prop}
    {failed : SessionError → Session σ → Prop} :
    (connect hint).Yields session done failed ↔
      (queryCapabilities >>= selectAndEnter hint).Yields session done failed := by
  unfold connect
  rw [Action.yields_bind, Action.yields_get, closed, if_neg Bool.false_ne_true]
  exact Iff.rfl

/-- A call that needs to know what the probe can do may ask for that beforehand. -/
theorem yields_call_asking {call : SessionCall} (asks : call.asks = true)
    (closed : session.link.state.isConnected = false) {done : Unit → Session σ → Prop}
    {failed : SessionError → Session σ → Prop}
    (goes : queryCapabilities.Yields session
      (fun _ told ↦ call.action.Yields told done failed) failed) :
    call.action.Yields session done failed := by
  cases call with
  | call asked =>
    cases asked with
    | connect hint =>
      show ((fun _ ↦ ()) <$> connect hint).Yields session done failed
      rw [Action.yields_map, yields_connect_closed closed]
      refine yields_asking ((goes.and (queryCapabilities_ends session)).imp ?_
        fun _ _ ⟨failed, _⟩ ↦ failed)
      rintro _ told ⟨goes, -, state, -⟩
      have goes := Action.yields_map.mp goes
      rwa [yields_connect_closed (state ▸ closed)] at goes
    | _ => nomatch asks
  | queryCapabilities =>
    show ((fun _ ↦ ()) <$> queryCapabilities).Yields session done failed
    rw [← bind_pure_comp]
    refine yields_asking (goes.imp (fun _ told goes ↦ ?_) fun _ _ failed ↦ failed)
    rw [bind_pure_comp]
    exact goes
  | setClock hertz =>
    refine Action.yields_map.mpr (yields_asking (goes.imp (fun _ told goes ↦ ?_)
      fun _ _ failed ↦ failed))
    exact Action.yields_map.mp goes
  | _ => nomatch asks

end Session

namespace Regime

open Session (Within)

variable (regime : Regime σ) {known other : LinkState → Prop} {config : Config}
  {told : Option Capabilities}

section Phases

variable {α β : Type}

/-- The action takes a connection of which one thing is known to one of which another thing is. -/
def Advances (config : Config) (told : Option Capabilities) (known other : LinkState → Prop)
    (action : Action (Session σ) SessionError α) : Prop :=
  ∀ session : Session σ, session.Within regime known config told → action.Yields session
    (fun _ ↦ Within regime other config told)
    (fun error next ↦ error.Bears regime.expects ∧
      next.Within regime (fun _ ↦ True) config told)

variable {regime}

theorem advances_of_guards {action : Action (Session σ) SessionError α}
    (guards : action.Guards (Within regime known config told)
      (SessionError.Bears regime.expects)) :
    regime.Advances config told known known action := by
  intro session within
  refine (guards session within).imp (fun _ _ kept ↦ kept) ?_
  rintro error next ⟨bears, kept⟩
  exact ⟨bears, within_mono kept fun _ _ ↦ trivial⟩

theorem Advances.bind {last : LinkState → Prop} {action : Action (Session σ) SessionError α}
    {next : α → Action (Session σ) SessionError β}
    (first : regime.Advances config told known other action)
    (second : ∀ value, regime.Advances config told other last (next value)) :
    regime.Advances config told known last (action >>= next) := by
  intro session within
  rw [Action.yields_bind]
  exact (first session within).imp (fun value middle ↦ second value middle)
    fun _ _ failed ↦ failed

private theorem advances_modifyState {change : LinkState → LinkState}
    (changes : ∀ state : LinkState, known state.bearings → other (change state).bearings) :
    regime.Advances config told known other (Session.modifyState change) :=
  fun _ within ↦ yields_modified within changes

private theorem advances_command {action : Action σ CommandError α}
    (governs : regime.Governs action) :
    regime.Advances config told known known (Session.commandWhileConnecting action) :=
  advances_of_guards (Action.Guards.mapError (governs_onProbe governs))

private theorem guards_access (operation : Operation) {action : Action (Link σ) AccessError α}
    (governs : regime.GovernsLink known action) :
    (Session.whileConnecting operation action).Guards (Within regime known config told)
      (SessionError.Bears regime.expects) :=
  Action.Guards.mapError (governs_onLink governs)

private theorem connectPort_guards (protocol : WireProtocol) (total attempts : Nat) :
    (Session.connectPort protocol total attempts).Guards (Within regime known config told)
      (SessionError.Bears regime.expects) := by
  induction attempts with
  | zero => exact guards_throw trivial
  | succ attempts ih =>
    refine (governs_onProbe (regime.connectPort _)).attempt_bind fun result bears ↦ ?_
    split
    · exact guards_ite (fun _ ↦ guards_pure ()) fun _ ↦ ih
    · exact ih
    · next error _ => exact guards_throw (bears error rfl)

private theorem connectLine_guards (protocol : WireProtocol) (choice : DebugPortChoice) :
    ((Session.onProbe (Line.connect protocol choice)).mapError fun
      | .multidropNeedsSwd => SessionError.multidropUnsupported
      | .command error => .command error).Guards (Within regime known config told)
      (SessionError.Bears regime.expects) := by
  refine Action.Guards.mapError fun session within ↦ ?_
  rw [Session.yields_onProbe]
  refine (regime.connectLine protocol choice session.link.transport within.link.transport).imp
    ?_ ?_
  · intro _ transport holds
    exact ⟨⟨holds, within.link.known, within.link.batch⟩, within.config, within.told⟩
  · rintro error transport ⟨bears, holds⟩
    refine ⟨?_, ⟨holds, within.link.known, within.link.batch⟩, within.config, within.told⟩
    cases error with
    | multidropNeedsSwd => trivial
    | command cause => exact bears cause rfl

private theorem powerUp_guards :
    Session.powerUp.Guards (Within regime known config told)
      (SessionError.Bears regime.expects) := by
  have awaiting (polls : Nat) : (Session.awaitPower polls).Guards
      (Within regime known config told) (SessionError.Bears regime.expects) := by
    induction polls with
    | zero => exact guards_throw trivial
    | succ polls ih =>
      exact guards_get_bind fun _ _ ↦ (guards_access _ (regime.readRegister known _ _)).bind
        fun _ ↦ guards_ite (fun _ ↦ guards_pure ()) fun _ ↦ ih
  exact guards_get_bind fun _ _ ↦ (guards_access _ (regime.clearStickyErrors known)).bind
    fun _ ↦ (guards_access _ (regime.writeRegister known _ _ _)).bind
      fun _ ↦ guards_get_bind fun _ _ ↦ awaiting _

variable {capabilities : Capabilities} {protocol : WireProtocol}

/-- The debug port is identified and powered up, and the probe is told of the connection. -/
private theorem advances_identifying (settings : Config) {clock : Option UInt32} {dapIndex : UInt8}
    (last : ∀ word, other { status := .connecting, clock, dapIndex, dpidr := some word }) :
    regime.Advances config told (· = { status := .connecting, clock, dapIndex }) other (do
      let dpidr ← Session.whileConnecting (.readDp DebugPort.identificationAddress)
        (Session.readRegister settings.transfer (.debug DebugPort.identificationAddress))
      Session.modifyState fun state ↦ { state with dpidr := some dpidr }
      if settings.session.powerUp then Session.powerUp
      Session.commandWhileConnecting (Probe.hostStatus true)) := by
  have telling : regime.Advances config told other other
      (Session.commandWhileConnecting (Probe.hostStatus true)) :=
    advances_command (regime.hostStatus true)
  refine (advances_of_guards (guards_access _ (regime.readRegister _ _ _))).bind fun word ↦ ?_
  have identified (state : LinkState)
      (isLast : state.bearings = { status := .connecting, clock, dapIndex }) :
      other { state.bearings with dpidr := some word } := by
    rw [isLast]
    exact last word
  refine (advances_modifyState identified).bind fun _ ↦ ?_
  split
  · exact (advances_of_guards powerUp_guards).bind fun _ ↦ telling
  · exact telling

/-- The phases of a connect put everything in place that a connection consists of. -/
theorem establish_advances (capabilities : Capabilities) (protocol : WireProtocol) :
    regime.Advances config told (· = { status := .connecting })
      (LinkState.Arrived config capabilities protocol .connecting)
      (Session.establish capabilities protocol) := by
  intro session within
  obtain rfl := within.config
  unfold Session.establish
  rw [Action.yields_bind, Action.yields_get]
  have clocked (clock : UInt32) : regime.Advances session.config told
      (· = { status := .connecting }) (· = { status := .connecting, clock := some clock })
      (Session.modifyState fun state ↦ { state with clock := some clock }) :=
    advances_modifyState fun _ ↦ congrArg fun state : LinkState ↦ { state with clock := some clock }
  have placed (clock : UInt32) (dapIndex : UInt8) : regime.Advances session.config told
      (· = { status := .connecting, clock := some clock })
      (· = { status := .connecting, clock := some clock, dapIndex })
      (Session.modifyState fun state ↦ { state with dapIndex }) :=
    advances_modifyState fun _ ↦ congrArg fun state : LinkState ↦ { state with dapIndex }
  refine ((advances_of_guards (connectPort_guards protocol _ _)).bind fun _ ↦
    (advances_command (regime.setClock _)).bind fun _ ↦ (clocked _).bind fun _ ↦
      (advances_command (regime.configureTransfers _)).bind fun _ ↦ ?_) session within
  cases protocol with
  | swd =>
    refine (advances_command (regime.configureSwd _)).bind fun _ ↦ ?_
    refine (advances_of_guards (connectLine_guards _ _)).bind fun _ ↦ ?_
    exact advances_identifying session.config fun word ↦ ⟨word, rfl⟩
  | jtag =>
    refine (advances_command (regime.configureJtag _)).bind fun _ ↦ (placed _ _).bind fun _ ↦ ?_
    refine (advances_of_guards (connectLine_guards _ _)).bind fun _ ↦ ?_
    exact advances_identifying session.config fun word ↦ ⟨word, rfl⟩

end Phases

section Connecting

variable {regime} {capabilities : Capabilities} {session : Session σ}

/-- What a connect yields that keeps to a regime: it succeeds with the protocol that is to be
selected and with everything in place, or it fails as expected and nothing is connected. -/
def Connects (regime : Regime σ) (known : LinkState → Prop) (config : Config)
    (capabilities : Capabilities) (hint : Option WireProtocol) (session : Session σ) : Prop :=
  (Session.connect hint).Yields session
    (fun protocol next ↦ config.selectProtocol capabilities hint = .ok protocol ∧
      next.Within regime (LinkState.Arrived config capabilities protocol (.connected protocol))
        config (some capabilities))
    (fun error next ↦ error.Bears regime.expects ∧ next.link.state.isConnected = false ∧
      next.Within regime known config (some capabilities))

omit [Transport σ] in
/-- A protocol that cannot be selected is no failure of a command. -/
private theorem bears_chooseProtocol {expected : CommandError → Prop} {requested : WireProtocol}
    {allowFallback : Bool} {error : SessionError}
    (failed : Session.chooseProtocol capabilities requested allowFallback = .error error) :
    error.Bears expected := by
  unfold Session.chooseProtocol at failed
  split at failed
  · nomatch failed
  · split at failed
    · nomatch failed
    · rw [← Except.error.inj failed]
      trivial

/-- A connect that goes through its phases. -/
private theorem connects_established {hint : Option WireProtocol} {protocol : WireProtocol}
    (blank : known {}) (within : session.Within regime known config (some capabilities))
    (selected : config.selectProtocol capabilities hint = .ok protocol) :
    (Session.enter capabilities protocol).Yields session
      (fun protocol next ↦ config.selectProtocol capabilities hint = .ok protocol ∧
        next.Within regime (LinkState.Arrived config capabilities protocol (.connected protocol))
          config (some capabilities))
      (fun error next ↦ error.Bears regime.expects ∧ next.link.state.isConnected = false ∧
        next.Within regime known config (some capabilities)) := by
  have opened : ({ session with link.state := { status := .connecting } } : Session σ).Within
      regime (· = { status := .connecting }) config (some capabilities) :=
    ⟨⟨within.link.transport, rfl, within.link.batch⟩, within.config, within.told⟩
  unfold Session.enter
  rw [Action.yields_bind, Session.yields_modifyState, Action.yields_bind, Action.yields_onError]
  refine (establish_advances capabilities protocol _ opened).imp ?_ ?_
  · rintro _ last arrived
    rw [Action.yields_bind]
    refine (yields_modified arrived ?_).imp (fun _ _ done ↦ ⟨selected, done⟩) fun _ _ never ↦ never
    rintro state ⟨word, same⟩
    exact ⟨word, congrArg (fun state : LinkState ↦
      { state with status := .connected protocol }) same⟩
  · rintro error last ⟨bears, failed⟩
    exact ⟨bears, rfl, within_abandon blank failed⟩

/-- Where nothing is connected a connect selects its protocol and goes through its phases. -/
private theorem connects_closed (blank : known {})
    (within : session.Within regime known config (some capabilities))
    (closed : session.link.state.isConnected = false) (hint : Option WireProtocol) :
    Connects regime known config capabilities hint session := by
  have same := within.config
  unfold Connects
  rw [Session.yields_connect_closed closed, Action.yields_bind,
    Session.yields_queryCapabilities_of_known within.told]
  unfold Session.selectAndEnter
  simp only [Action.yields_bind, Action.yields_get, Action.yields_ofExcept, same]
  rcases Session.selectProtocol_cases config capabilities hint with
    ⟨error, chosen, -⟩ | ⟨protocol, chosen, selected⟩
  · rw [chosen]
    exact ⟨bears_chooseProtocol chosen, closed, within⟩
  · rw [chosen]
    dsimp only
    split
    · exact ⟨trivial, closed, within⟩
    · next possible =>
      rw [if_neg possible] at selected
      exact connects_established blank within selected

/-- However a session is connected that knows its probe, the connect keeps to the regime. -/
theorem connects_within (lasting : LinkState.Lasting known)
    (within : session.Within regime known config (some capabilities))
    (hint : Option WireProtocol) : Connects regime known config capabilities hint session := by
  cases connected : session.link.state.isConnected with
  | false => exact connects_closed lasting.blank within connected hint
  | true =>
    unfold Connects Session.connect
    rw [Action.yields_bind, Action.yields_get, Action.yields_ite]
    refine ⟨fun _ ↦ ?_, absurd connected⟩
    rw [Action.yields_bind]
    refine ((regime.disconnectSession lasting session within).and
      (Session.disconnect_leaves session)).imp ?_ ?_
    · -- Once disconnected, it goes on as a connect that starts there.
      rintro _ idle ⟨kept, left⟩
      have later := connects_closed lasting.blank kept left.closed hint
      unfold Connects at later
      rwa [Session.yields_connect_closed left.closed] at later
    · rintro error idle ⟨⟨bears, kept⟩, left⟩
      exact ⟨bears, left.closed, kept⟩

/-- The clock is never set faster than the probe can be. -/
private theorem setClock_guards (blank : known {})
    (clocked : ∀ (state : LinkState) (hertz : UInt32), known state →
      known { state with clock := some (min hertz capabilities.maxClock) }) (hertz : UInt32) :
    (Session.setClock hertz).Guards (Within regime known config (some capabilities))
      (SessionError.Bears regime.expects) := by
  intro session within
  unfold Session.setClock
  rw [Action.yields_bind, Session.yields_queryCapabilities_of_known within.told]
  refine ((governs_sessionCommand blank (regime.setClock _)).bind fun _ ↦
    Action.Guards.bind ?_ fun _ ↦ guards_pure _) session within
  exact fun _ kept ↦ yields_modified kept fun state ↦ clocked state.bearings hertz

/-- Every call of a session that knows its probe keeps to the regime. -/
theorem informedCall {call : SessionCall}
    (enduring : LinkState.Enduring known config capabilities call) :
    call.action.Guards (Within regime known config (some capabilities))
      (SessionError.Bears regime.expects) := by
  cases asks : call.asks with
  | false => exact regime.directCall enduring.toLasting asks
  | true =>
    cases call with
    | call asked =>
      cases asked with
      | connect hint =>
        intro session within
        refine Action.yields_map.mpr ((connects_within enduring.toLasting within hint).imp ?_ ?_)
        · rintro protocol next ⟨selected, arrived⟩
          exact within_mono arrived fun state ↦ enduring.arrived hint protocol state rfl selected
        · rintro error next ⟨bears, -, kept⟩
          exact ⟨bears, kept⟩
      | _ => nomatch asks
    | queryCapabilities =>
      exact fun session within ↦ Action.yields_map.mpr
        ((Session.yields_queryCapabilities_of_known within.told).mpr within)
    | setClock hertz => exact (setClock_guards enduring.blank enduring.clocked hertz).map
    | _ => nomatch asks

end Connecting

end Regime

end DebugProbe
