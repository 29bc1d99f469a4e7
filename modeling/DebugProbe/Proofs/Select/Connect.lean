import DebugProbe.Proofs.Select.Accesses

/-!
# Connecting keeps a session coherent

While a session connects it knows nothing of SELECT until the line is awake. After that it reads the
identification and may power the target up, which takes accesses to the control register only.
-/

namespace DebugProbe

variable {σ : Type} [Transport σ]

open SelectTrace (Quiet Unasked)

/-- Some accesses go to the control register of the debug port. -/
def RegisterAccess.ToControl (accesses : List RegisterAccess) : Prop :=
  ∀ access ∈ accesses, access.register = .debug DebugPort.controlAddress

namespace Session

variable (view : σ → SelectTrace) (ready : σ → Prop)

/-- A session that gets ready: no access waits, what it believes is true, and so far it asked for
the control register only. Before the line is awake it believes nothing. -/
structure Connecting (start : SelectTrace) (asleep : Prop) (session : Session σ) : Prop where
  free : Link.Free SelectTrace.select view ready session.link
  calm : session.link.state.lineResetPending = false
  unknown : asleep → session.link.state.selectCache = none
  logged : ∃ accesses, RegisterAccess.ToControl accesses ∧
    start.Logged accesses (view session.link.transport)

/-- A session that failed to connect asked for the control register only. -/
def Adrift (start : SelectTrace) (session : Session σ) : Prop :=
  ready session.link.transport ∧ ∃ accesses, RegisterAccess.ToControl accesses ∧
    start.Logged accesses (view session.link.transport)

variable {view ready} {start : SelectTrace} {asleep : Prop} {session : Session σ}

omit [Transport σ] in
theorem Connecting.adrift (connecting : session.Connecting view ready start asleep) :
    session.Adrift view ready start :=
  ⟨connecting.free.isReady, connecting.logged⟩

omit [Transport σ] in
/-- What is done to the state of the link while connecting does not concern SELECT. -/
theorem keeps_modifyState {ε : Type} {change : LinkState → LinkState} {left : Session σ → Prop}
    (cache : ∀ state, (change state).selectCache = state.selectCache)
    (pending : ∀ state, (change state).lineResetPending = state.lineResetPending) :
    (modifyState change : Action (Session σ) ε Unit).Keeps (Connecting view ready start asleep)
      left := by
  intro session connecting
  rw [yields_modifyState]
  refine ⟨⟨connecting.free.isReady, connecting.free.batch, ?_⟩, (pending _).trans connecting.calm,
    fun sleeps ↦ (cache _).trans (connecting.unknown sleeps), connecting.logged⟩
  show Select.Agrees (change session.link.state).selectCache _
  rw [cache]
  exact connecting.free.agrees

omit [Transport σ] in
/-- Commands that leave the trace alone do so while connecting. -/
theorem keeps_onProbe {ε α : Type} {action : Action σ ε α}
    (keeps : ∀ trace, action.Keeps (Quiet view ready trace) (Quiet view ready trace)) :
    (onProbe action).Keeps (Connecting view ready start asleep)
      (Connecting view ready start asleep) := by
  intro session connecting
  have same {transport : σ} (quiet : Quiet view ready (view session.link.transport) transport) :
      Connecting view ready start asleep { session with link.transport := transport } := by
    refine ⟨⟨quiet.1, connecting.free.batch, ?_⟩, connecting.calm, connecting.unknown, ?_⟩
    · show Select.Agrees session.link.state.selectCache (view transport).select
      rw [quiet.2]
      exact connecting.free.agrees
    · show ∃ accesses, _ ∧ start.Logged accesses (view transport)
      rw [quiet.2]
      exact connecting.logged
  rw [yields_onProbe]
  exact (keeps _ session.link.transport ⟨connecting.free.isReady, rfl⟩).imp
    (fun _ _ quiet ↦ same quiet) (fun _ _ quiet ↦ same quiet)

omit [Transport σ] in
theorem keeps_commandWhileConnecting {α : Type} {action : Action σ CommandError α}
    (keeps : ∀ trace, action.Keeps (Quiet view ready trace) (Quiet view ready trace)) :
    (commandWhileConnecting action).Keeps (Connecting view ready start asleep)
      (Adrift view ready start) :=
  (keeps_onProbe keeps).mapError.imp fun _ ↦ Connecting.adrift

end Session

namespace SteadyProbe

variable {view : σ → SelectTrace} {ready : σ → Prop} (steady : SteadyProbe view ready)
  {start : SelectTrace} {asleep : Prop} {queued : List RegisterAccess} {session : Session σ}
include steady

/-- Asking for the port again and again asks for no access. -/
private theorem keeps_connectPort (protocol : WireProtocol) (total attempts : Nat) :
    (Session.connectPort protocol total attempts).Keeps
      (Session.Connecting view ready start asleep) (Session.Adrift view ready start) := by
  induction attempts with
  | zero => exact Action.keeps_throw _ fun _ ↦ Session.Connecting.adrift
  | succ attempts ih =>
    unfold Session.connectPort
    refine Action.Keeps.bind (Session.keeps_onProbe fun trace ↦
      steady.connectPort trace (some protocol)).attempt fun answer ↦ ?_
    split
    · exact Action.keeps_ite (Action.keeps_pure _) ih
    · exact ih
    · exact Action.keeps_throw _ fun _ ↦ Session.Connecting.adrift

/-- Waking the line asks for no access; nothing is believed before it. -/
private theorem keeps_connectLine {rename : LineError → SessionError} (protocol : WireProtocol)
    (choice : DebugPortChoice) :
    ((Session.onProbe (Line.connect protocol choice)).mapError rename).Keeps
      (Session.Connecting view ready start True) (Session.Adrift view ready start) := by
  intro session connecting
  obtain ⟨accesses, toControl, logged⟩ := connecting.logged
  have same {transport : σ} (unasked : Unasked view ready (view session.link.transport) transport) :
      Session.Connecting view ready start True { session with link.transport := transport } := by
    have unknown := connecting.unknown trivial
    refine ⟨⟨unasked.1, connecting.free.batch, ?_⟩, connecting.calm, fun _ ↦ unknown, ?_⟩
    · show Select.Agrees session.link.state.selectCache (view transport).select
      rw [unknown]
      exact .none _
    · obtain ⟨events, kept, accounts⟩ := logged
      exact ⟨accesses, toControl, events, unasked.2.trans kept, accounts⟩
  rw [Action.yields_mapError, Session.yields_onProbe]
  exact (steady.connectLine _ protocol choice session.link.transport
    ⟨connecting.free.isReady, rfl⟩).imp (fun _ _ unasked ↦ same unasked)
    (fun _ _ unasked ↦ (same unasked).adrift)

omit [Transport σ] steady in
/-- Whatever part of an access was performed is logged as one to the control register, if SELECT has
a say in it at all. -/
private theorem logged_part {access : RegisterAccess} {part : List RegisterAccess}
    {words : List (Option UInt32)} {before after : SelectTrace}
    (kind : access.register = .debug DebugPort.controlAddress ∨ ¬access.wire.Banked)
    (performed : SelectTrace.model.Performed SelectTrace.select part before words after)
    (first : part <+: [access]) :
    ∃ accesses, RegisterAccess.ToControl accesses ∧ before.Logged accesses after := by
  have logged := SelectTrace.logged_of_performed performed
  rcases kind with control | free
  · refine ⟨part, fun other member ↦ ?_, logged⟩
    rw [List.mem_singleton.mp (first.subset member)]
    exact control
  · refine ⟨[], nofun, logged.forget fun other member ↦ ?_⟩
    rw [List.mem_singleton.mp (first.subset member)]
    exact free

omit steady in
/-- A single access while connecting is performed, or the session fails to connect. -/
private theorem whileConnecting {α : Type} {operation : Operation}
    {action : Action (Link σ) AccessError α} (access : RegisterAccess)
    (kind : access.register = .debug DebugPort.controlAddress ∨ ¬access.wire.Banked)
    (performs : ∀ {link : Link σ}, Link.Free SelectTrace.select view ready link →
      action.Yields link
        (fun _ next ↦ ∃ words, Link.Did SelectTrace.model SelectTrace.select view ready link
          [access] words next)
        (fun _ next ↦ Link.Stopped SelectTrace.model SelectTrace.select view ready ready link
          [access] next))
    (connecting : session.Connecting view ready start asleep) :
    (Session.whileConnecting operation action).Yields session
      (fun _ ↦ Session.Connecting view ready start False)
      (fun _ ↦ Session.Adrift view ready start) := by
  obtain ⟨accesses, toControl, logged⟩ := connecting.logged
  have more {after : SelectTrace} {part : List RegisterAccess} {words : List (Option UInt32)}
      (performed : SelectTrace.model.Performed SelectTrace.select part
        (view session.link.transport) words after) (first : part <+: [access]) :
      ∃ accesses, RegisterAccess.ToControl accesses ∧ start.Logged accesses after := by
    obtain ⟨others, alsoToControl, later⟩ := logged_part kind performed first
    refine ⟨accesses ++ others, fun other member ↦ ?_, logged.append later⟩
    exact (List.mem_append.mp member).elim (toControl other) (alsoToControl other)
  unfold Session.whileConnecting
  rw [Action.yields_mapError, Session.yields_onLink]
  refine (performs connecting.free).imp ?_ ?_
  · rintro value link ⟨words, did⟩
    refine ⟨did.free, ?_, nofun, more did.performed List.prefix_rfl⟩
    show link.state.lineResetPending = false
    rw [did.state]
    exact connecting.calm
  · intro error link stopped
    obtain ⟨part, words, first, performed⟩ := stopped.performed
    exact ⟨stopped.left.elim id id, more performed first⟩

/-- A register is read while connecting, or the session fails to connect. -/
private theorem readWhileConnecting {operation : Operation} {config : TransferConfig}
    {register : RegisterAddress}
    (kind : (RegisterAccess.read register).register = .debug DebugPort.controlAddress ∨
      ¬(RegisterAccess.read register).wire.Banked)
    (connecting : session.Connecting view ready start asleep) :
    (Session.whileConnecting operation (Session.readRegister config register)).Yields session
      (fun _ ↦ Session.Connecting view ready start False)
      (fun _ ↦ Session.Adrift view ready start) :=
  whileConnecting (.read register) kind (fun free ↦
    (steady.truthful.readRegister SelectTrace.tracks config register free).imp
      (fun word _ did ↦ ⟨[some word], did⟩) (fun _ _ stopped ↦ stopped)) connecting

/-- Waiting for power asks for the control register only. -/
private theorem keeps_awaitPower (polls : Nat) :
    (Session.awaitPower polls).Keeps (Session.Connecting view ready start False)
      (Session.Adrift view ready start) := by
  induction polls with
  | zero => exact Action.keeps_throw _ fun _ ↦ Session.Connecting.adrift
  | succ polls ih =>
    unfold Session.awaitPower
    refine Action.keeps_get_bind fun session ↦ Action.Keeps.bind
      (fun _ ↦ steady.readWhileConnecting (.inl rfl)) fun status ↦ ?_
    exact Action.keeps_ite (Action.keeps_pure _) ih

/-- Powering the target up asks for the control register only. -/
private theorem keeps_powerUp :
    Session.powerUp.Keeps (Session.Connecting view ready start False)
      (Session.Adrift view ready start) := by
  refine Action.keeps_get_bind fun session ↦ Action.Keeps.bind ?_ fun _ ↦ Action.Keeps.bind ?_
    fun _ ↦ Action.keeps_get_bind fun _ ↦ steady.keeps_awaitPower _
  · intro session connecting
    have same {link : Link σ} (sticky : Bool)
        (quiet : Quiet view ready (view session.link.transport) link.transport)
        (same : link = { session.link with
          transport := link.transport
          state := { session.link.state with stickyError := sticky } }) :
        Session.Connecting view ready start False { session with link } := by
      rw [same]
      refine ⟨⟨quiet.1, connecting.free.batch, ?_⟩, connecting.calm, nofun, ?_⟩
      · show Select.Agrees session.link.state.selectCache (view link.transport).select
        rw [quiet.2]
        exact connecting.free.agrees
      · show ∃ accesses, _ ∧ start.Logged accesses (view link.transport)
        rw [quiet.2]
        exact connecting.logged
    unfold Session.whileConnecting
    rw [Action.yields_mapError, Session.yields_onLink]
    refine (steady.clearSticky connecting.free.isReady).imp ?_ ?_
    · rintro _ link ⟨quiet, -, unchanged⟩
      exact same false quiet unchanged
    · rintro error link ⟨quiet, unchanged⟩
      exact (same session.link.state.stickyError quiet unchanged).adrift
  · intro session connecting
    have plain : (RegisterAccess.write (.debug DebugPort.controlAddress)
        ControlStatus.powerUp.word).Plain := by
      intro isSelect
      exact absurd isSelect (by decide)
    exact whileConnecting _ (.inl rfl)
      (fun free ↦ steady.truthful.writeRegister SelectTrace.tracks _ plain free) connecting

/-- With the port set up the line is woken, the identification is read and power is requested. -/
private theorem wake {rename : LineError → SessionError} (config : Config)
    (protocol : WireProtocol) (connecting : session.Connecting view ready start True) :
    (do
      (Session.onProbe
        (Line.connect protocol (.ofTargetSel config.session.targetSel))).mapError rename
      let dpidr ← Session.whileConnecting (.readDp DebugPort.identificationAddress)
        (Session.readRegister config.transfer (.debug DebugPort.identificationAddress))
      Session.modifyState fun state ↦ { state with dpidr := some dpidr }
      if config.session.powerUp then Session.powerUp
      Session.commandWhileConnecting (Probe.hostStatus true) :
      Action (Session σ) SessionError Unit).Yields session
      (fun _ ↦ Session.Connecting view ready start False)
      (fun _ ↦ Session.Adrift view ready start) := by
  have told : (Session.commandWhileConnecting (Probe.hostStatus true)).Keeps
      (Session.Connecting view ready start False) (Session.Adrift view ready start) :=
    Session.keeps_commandWhileConnecting fun trace ↦ steady.hostStatus trace true
  refine (steady.keeps_connectLine protocol _).yields_bind connecting fun _ _ connecting ↦ ?_
  rw [Action.yields_bind]
  refine (steady.readWhileConnecting (.inr RegisterAccess.not_banked_identification)
    connecting).imp (fun dpidr after connecting ↦ ?_) (fun _ _ lost ↦ lost)
  refine Action.Keeps.yields_bind (Session.keeps_modifyState ?_ ?_) connecting
    fun _ after connecting ↦ ?_
  · exact fun _ ↦ rfl
  · exact fun _ ↦ rfl
  · exact Action.keeps_ite (steady.keeps_powerUp.bind fun _ ↦ told) told after connecting

/-- The steps of a connect ask for the control register only. -/
private theorem establish (capabilities : Capabilities) (protocol : WireProtocol)
    (connecting : session.Connecting view ready start True) :
    (Session.establish capabilities protocol).Yields session
      (fun _ ↦ Session.Connecting view ready start False)
      (fun _ ↦ Session.Adrift view ready start) := by
  unfold Session.establish
  rw [Action.yields_bind, Action.yields_get]
  refine (steady.keeps_connectPort protocol _ _).yields_bind connecting fun _ _ connecting ↦ ?_
  refine (Session.keeps_commandWhileConnecting fun trace ↦ steady.setClock trace _).yields_bind
    connecting fun _ _ connecting ↦ ?_
  refine Action.Keeps.yields_bind (Session.keeps_modifyState ?_ ?_) connecting
    fun _ _ connecting ↦ ?_
  · exact fun _ ↦ rfl
  · exact fun _ ↦ rfl
  · refine (Session.keeps_commandWhileConnecting fun trace ↦
      steady.configureTransfers trace _).yields_bind connecting fun _ _ connecting ↦ ?_
    cases protocol with
    | swd =>
      refine (Session.keeps_commandWhileConnecting fun trace ↦
        steady.configureSwd trace _).yields_bind connecting fun _ _ connecting ↦ ?_
      exact steady.wake session.config .swd connecting
    | jtag =>
      refine (Session.keeps_commandWhileConnecting fun trace ↦ (Probe.keeps_fitting _).bind
        fun chain ↦ steady.configureJtag trace chain).yields_bind connecting
        fun _ _ connecting ↦ ?_
      refine Action.Keeps.yields_bind (Session.keeps_modifyState ?_ ?_) connecting
        fun _ _ connecting ↦ ?_
      · exact fun _ ↦ rfl
      · exact fun _ ↦ rfl
      · exact steady.wake session.config .jtag connecting

/-- Asking for the capabilities asks for no access; if it breaks the session starts anew. -/
private theorem askCapabilities {next : Session σ} (idle : session.Idle view ready next) :
    Session.queryCapabilities.Yields next
      (fun _ last ↦ session.Idle view ready last) (fun _ last ↦ session.Idle view ready last) := by
  have told {transport : σ} (quiet : Quiet view ready (view next.link.transport) transport)
      (capabilities : Option Capabilities) :
      session.Idle view ready
        { next with link.transport := transport, capabilities := capabilities } := by
    refine ⟨.of_free ⟨quiet.1, idle.coherent.free.batch, ?_⟩ idle.coherent.unknown, ?_⟩
    · show Select.Agrees next.link.state.selectCache (view transport).select
      rw [quiet.2]
      exact idle.coherent.agrees
    · show (view session.link.transport).Logged [] (view transport)
      rw [quiet.2]
      exact idle.logged
  unfold Session.queryCapabilities
  rw [Action.yields_bind, Action.yields_get]
  split
  · exact idle
  · rw [Action.yields_bind]
    unfold Session.command
    rw [Action.yields_mapError, Action.yields_onError, Session.yields_onProbe]
    refine (steady.queryCapabilities _ _ next.link.transport
      ⟨idle.coherent.isReady, rfl⟩).imp ?_ ?_
    · intro capabilities transport quiet
      rw [Action.yields_bind, Action.yields_modify, Action.yields_pure]
      exact told quiet (some capabilities)
    · intro error transport quiet
      have still := told quiet next.capabilities
      split
      · obtain ⟨coherent, same⟩ := steady.abandon still.coherent.isReady
        refine ⟨coherent, ?_⟩
        rw [same]
        exact still.logged
      · exact still

/-- A session with a known probe gets ready, and fails as a session that starts anew. -/
private theorem connectIdle {next : Session σ} (idle : session.Idle view ready next)
    (capabilities : Capabilities) (protocol : WireProtocol) :
    (do
      Session.modifyState fun _ ↦ { status := .connecting }
      (Session.establish capabilities protocol).onError fun _ session ↦ session.abandon
      Session.modifyState fun state ↦ { state with status := .connected protocol }
      return protocol : Action (Session σ) SessionError WireProtocol).Yields next
      (fun _ last ↦ session.Settled view ready queued RegisterAccess.ToControl last)
      (fun _ last ↦ session.Settled view ready queued RegisterAccess.ToControl last) := by
  have connecting : Session.Connecting view ready (view session.link.transport) True
      ({ next with link.state := { status := .connecting } } : Session σ) :=
    ⟨⟨idle.coherent.isReady, idle.coherent.free.batch, .none _⟩, rfl, fun _ ↦ rfl, [], nofun,
      idle.logged⟩
  rw [Action.yields_bind, Session.yields_modifyState, Action.yields_bind, Action.yields_onError]
  refine (steady.establish capabilities protocol connecting).imp ?_ ?_
  · intro _ last connected
    rw [Action.yields_bind, Session.yields_modifyState, Action.yields_pure]
    obtain ⟨accesses, toControl, logged⟩ := connected.logged
    have coherent : Session.Coherent view ready [] ({ last with
        link.state := { last.link.state with status := .connected protocol } } : Session σ) := by
      refine .of_free ⟨connected.free.isReady, connected.free.batch, connected.free.agrees⟩
        fun pending ↦ ?_
      change last.link.state.lineResetPending = true at pending
      rw [connected.calm] at pending
      nomatch pending
    exact coherent.settled toControl logged
  · rintro error last ⟨isReady, accesses, toControl, logged⟩
    obtain ⟨coherent, same⟩ := steady.abandon isReady
    refine coherent.settled toControl ?_
    rw [same]
    exact logged

/-- A session that is connected is disconnected first. -/
private theorem disconnectFirst (coherent : session.Coherent view ready queued)
    {rest : Action (Session σ) SessionError WireProtocol}
    {asked : List RegisterAccess → Prop} (none : asked [])
    (later : ∀ {next : Session σ}, session.Idle view ready next → rest.Yields next
      (fun _ last ↦ session.Settled view ready queued asked last)
      (fun _ last ↦ session.Settled view ready queued asked last)) :
    (if session.link.state.isConnected then do
        Session.disconnect
        rest
      else rest).Yields session
      (fun _ last ↦ session.Settled view ready queued asked last)
      (fun _ last ↦ session.Settled view ready queued asked last) := by
  rw [Action.yields_ite]
  constructor
  · intro _
    rw [Action.yields_bind]
    exact (steady.disconnect coherent).imp (fun _ _ idle ↦ later idle)
      (fun _ _ idle ↦ idle.coherent.settled none idle.logged)
  · intro closed
    have waits := coherent.none_waits closed
    subst waits
    exact later ⟨coherent, .refl rfl⟩

/-- A connect asks for the control register only. -/
theorem connect (coherent : session.Coherent view ready queued) (hint : Option WireProtocol) :
    (Session.connect hint).Yields session
      (fun _ next ↦ session.Settled view ready queued RegisterAccess.ToControl next)
      (fun _ next ↦ session.Settled view ready queued RegisterAccess.ToControl next) := by
  have none : RegisterAccess.ToControl [] := nofun
  unfold Session.connect
  rw [Action.yields_bind, Action.yields_get]
  refine steady.disconnectFirst coherent none fun idle ↦ ?_
  rw [Action.yields_bind]
  refine (steady.askCapabilities idle).imp (fun capabilities next idle ↦ ?_)
    (fun _ _ idle ↦ idle.coherent.settled none idle.logged)
  rw [Action.yields_bind, Action.yields_get, Action.yields_bind, Action.yields_ofExcept]
  split
  · next protocol chosen =>
    rw [Action.yields_ite]
    constructor
    · intro _
      exact idle.coherent.settled none idle.logged
    · intro _
      exact steady.connectIdle idle capabilities protocol
  · exact idle.coherent.settled none idle.logged

end SteadyProbe

end DebugProbe
