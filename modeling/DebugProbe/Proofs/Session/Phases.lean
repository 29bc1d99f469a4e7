import DebugProbe.Proofs.Probe.Sized
import DebugProbe.Proofs.Session.Course

/-!
# The phases of a connect

Once it is known what the probe can do, a connect goes through five phases: it asks for the port,
opens it and wakes the line, reads the identification, powers the target up and tells the probe.
Each of them begins only after the one before it succeeded, so that no frame is sent to a line that
is not awake, or to a target that did not answer.
-/

namespace DebugProbe

/-- The port mode of a protocol. -/
def WireProtocol.mode : WireProtocol → PortMode
  | swd => .swd
  | jtag => .jtag

/-- Whether a connect is refused because of what the probe can do. -/
def SessionError.isRefusal : SessionError → Bool
  | unsupportedProtocol _ | multidropUnsupported => true
  | _ => false

/-- Whether the request sets a port up or drives the line. -/
def Request.isOpening : Request → Bool
  | clock _ | transferConfigure _ | swdConfigure _ | jtagConfigure _ => true
  | lineSequence _ | jtagScan _ => true
  | _ => false

theorem Request.isOpening_of_drives {step : LineStep} {request : Request}
    (drives : request.Drives step) : request.isOpening = true := by
  cases request <;> first | rfl | exact drives.elim

namespace Config

/-- The request configures transfers of the protocol. -/
def Configures (config : Config) (protocol : WireProtocol) (request : Request) : Prop :=
  match protocol with
  | .swd => request = .swdConfigure {}
  | .jtag => ∃ chain : JtagChain,
    chain.irLengths = config.session.jtagIrLengths ∧ request = .jtagConfigure chain

/-- The steps that open a port: the clock, the parameters of transfers, those of the protocol, and
what wakes the line. -/
def openingSteps (config : Config) (capabilities : Capabilities) (protocol : WireProtocol) :
    List (Request → Prop) :=
  [(· = .clock (min config.session.clock capabilities.maxClock)),
    (· = .transferConfigure ⟨config.transfer.idleCycles, config.transfer.probeWaitRetry,
      config.transfer.matchRetry⟩),
    config.Configures protocol] ++
  LineStep.requests (Line.switch protocol config.session.targetSel)

/-- What opens a port sets it up or drives the line. -/
theorem isOpening_of_step {config : Config} {capabilities : Capabilities}
    {protocol : WireProtocol} {step : Request → Prop}
    (isStep : step ∈ config.openingSteps capabilities protocol) {request : Request}
    (holds : step request) : request.isOpening = true := by
  rcases List.mem_append.mp isStep with setting | waking
  · simp only [List.mem_cons, List.not_mem_nil, or_false] at setting
    rcases setting with rfl | rfl | rfl
    · rw [holds]
      rfl
    · rw [holds]
      rfl
    · cases protocol with
      | swd =>
        have configures : request = .swdConfigure {} := holds
        rw [configures]
        rfl
      | jtag =>
        obtain ⟨chain, -, rfl⟩ := holds
        rfl
  · obtain ⟨driven, -, rfl⟩ := List.mem_map.mp waking
    exact Request.isOpening_of_drives holds

/-- Position of the debug port that a protocol accesses. -/
def dapIndex (config : Config) : WireProtocol → UInt8
  | .swd => 0
  | .jtag => config.session.jtagIndex

end Config

/-- The port was asked for, at most so many times. -/
structure Turn.Attempts (protocol : WireProtocol) (most : Nat) (turns : List Turn) : Prop where
  few : turns.length ≤ most
  asks : ∀ turn ∈ turns, turn.request = .connect protocol.mode

/-- The exchanges of a connect, phase by phase. -/
structure ConnectPhases where
  attempts : List Turn := []
  opening : List Turn := []
  reading : List Turn := []
  powering : List Turn := []
  telling : List Turn := []

namespace ConnectPhases

/-- All exchanges. -/
def turns (phases : ConnectPhases) : List Turn :=
  phases.attempts ++ phases.opening ++ phases.reading ++ phases.powering ++ phases.telling

/-- The last attempt got the port. -/
def Granted (phases : ConnectPhases) : Prop :=
  ∃ turn, phases.attempts.getLast? = some turn ∧ turn.Accepted

/-- The port was opened and the line was woken. -/
def Opened (steps : List (Request → Prop)) (phases : ConnectPhases) : Prop :=
  phases.Granted ∧ Turn.Follow steps phases.opening

/-- The identification was read. -/
def Identified (phases : ConnectPhases) : Prop :=
  ∃ turn word, phases.reading.getLast? = some turn ∧ turn.Carried .identification (some word)

/-- Sticky errors were cleared, and in the end both power domains acknowledged. -/
def Powered (phases : ConnectPhases) : Prop :=
  ∃ abort accesses turn word, phases.powering = abort :: accesses ∧ abort.Accepted ∧
    accesses.getLast? = some turn ∧
    turn.Carried (RegisterAccess.read (.debug DebugPort.controlAddress)).transfer (some word) ∧
    ControlStatus.powered ⟨word⟩ = true

/-- The probe was told, and answered. -/
def Told (phases : ConnectPhases) : Prop :=
  ∃ turn, phases.telling = [turn] ∧ turn.result.isOk = true

/-- The target is powered up: sticky errors are cleared first, and only if that was accepted is
anything accessed. -/
structure Powering (dapIndex : UInt8) (turns : List Turn) : Prop where
  clears : ∀ abort ∈ turns.head?, Abort.Clears dapIndex abort.request
  accepted : turns.tail ≠ [] → ∀ abort ∈ turns.head?, abort.Accepted
  accesses : ∀ turn ∈ turns.tail, turn.request.isAccess = true

/-- The phases were gone through in order, the last one of them perhaps in part. -/
structure Taken (config : Config) (capabilities : Capabilities) (protocol : WireProtocol)
    (phases : ConnectPhases) : Prop where
  attempts : Turn.Attempts protocol (max config.session.connectAttempts 1) phases.attempts
  opening : Turn.Take (config.openingSteps capabilities protocol) phases.opening
  granted : phases.opening ≠ [] → phases.Granted
  reading : ∀ turn ∈ phases.reading, turn.request = .identification (config.dapIndex protocol)
  written : ∀ turn ∈ phases.reading.head?, turn.written = true
  opened : phases.reading ≠ [] → phases.Opened (config.openingSteps capabilities protocol)
  powering : Powering (config.dapIndex protocol) phases.powering
  identified : phases.powering ≠ [] → config.session.powerUp = true ∧ phases.Identified
  telling : phases.telling = [] ∨
    ∃ turn, phases.telling = [turn] ∧ turn.request = .hostStatus .connected true
  ready : phases.telling ≠ [] →
    phases.Identified ∧ (config.session.powerUp = true → phases.Powered)

/-- The probe was not told if there was no exchange for that. -/
theorem not_told {phases : ConnectPhases} (untold : phases.telling = []) : ¬phases.Told := by
  rintro ⟨turn, only, -⟩
  rw [untold] at only
  nomatch only

/-- The identification was read before the probe was told. -/
theorem Taken.read {config : Config} {capabilities : Capabilities} {protocol : WireProtocol}
    {phases : ConnectPhases} (taken : phases.Taken config capabilities protocol)
    (told : phases.Told) : phases.reading ≠ [] := by
  obtain ⟨turn, only, -⟩ := told
  obtain ⟨reader, word, last, -⟩ := (taken.ready (by simp [only])).1
  intro none
  rw [none] at last
  nomatch last

section Powering

variable {dapIndex : UInt8} {turns accesses : List Turn}

theorem powering_nil (dapIndex : UInt8) : Powering dapIndex [] :=
  ⟨fun _ ↦ (nomatch ·), absurd rfl, List.forall_mem_nil _⟩

/-- A write of ABORT that is not accepted ends it. -/
theorem powering_of_take (take : Turn.Take [Abort.Clears dapIndex] turns) :
    Powering dapIndex turns := by
  obtain ⟨taken, isPrefix, requests⟩ := take.requests
  have few := isPrefix.length_le
  cases requests with
  | nil => exact powering_nil dapIndex
  | @cons step turn others more isStep rest =>
    have none : others = [] := List.length_eq_zero_iff.mp (by simpa using few)
    subst none
    obtain rfl := List.forall₂_nil_left_iff.mp rest
    obtain rfl : step = Abort.Clears dapIndex :=
      List.mem_singleton.mp (isPrefix.subset List.mem_cons_self)
    refine ⟨?_, absurd rfl, List.forall_mem_nil _⟩
    rintro abort member
    obtain rfl := Option.some.inj member
    exact isStep

/-- Accesses follow a write of ABORT that is accepted. -/
theorem powering_of_accepted {abort : Turn} (clears : Abort.Clears dapIndex abort.request)
    (accepted : abort.Accepted) (only : ∀ turn ∈ accesses, turn.request.isAccess = true) :
    Powering dapIndex (abort :: accesses) := by
  refine ⟨?_, fun _ ↦ ?_, only⟩
  · rintro _ member
    obtain rfl := Option.some.inj member
    exact clears
  · rintro _ member
    obtain rfl := Option.some.inj member
    exact accepted

end Powering

/-- At first the port is asked for. -/
theorem taken_attempts {config : Config} {capabilities : Capabilities} {protocol : WireProtocol}
    {attempts : List Turn}
    (asked : Turn.Attempts protocol (max config.session.connectAttempts 1) attempts) :
    Taken config capabilities protocol { attempts } where
  attempts := asked
  opening := Turn.take_nil _
  granted := absurd rfl
  reading := List.forall_mem_nil _
  written _ none := nomatch none
  opened := absurd rfl
  powering := powering_nil _
  identified := absurd rfl
  telling := .inl rfl
  ready := absurd rfl

end ConnectPhases

variable {σ : Type} [Transport σ]

/-- A port that is given the protocol that was asked for is granted. -/
private theorem Probe.yields_connectPort (protocol : WireProtocol) (state : σ) :
    (connectPort (some protocol)).Yields state
      (fun connected next ↦ ∃ turn : Turn, turn.request = .connect protocol.mode ∧
        turn.Leads state next ∧ (connected = protocol → turn.Accepted))
      (fun _ next ↦ ∃ turn : Turn, turn.request = .connect protocol.mode ∧
        turn.Leads state next) := by
  unfold connectPort
  rw [Action.yields_bind]
  cases protocol with
  | swd =>
    refine (yields_request (.connect .swd) state).imp ?_ ?_
    · rintro reply next ⟨written, leads⟩
      cases reply with
      | swd => exact ⟨_, rfl, leads, fun _ ↦ ⟨.swd, rfl, rfl⟩⟩
      | jtag => exact ⟨_, rfl, leads, nofun⟩
      | failed => exact ⟨_, rfl, leads⟩
    · rintro error next ⟨-, written, cause, leads⟩
      exact ⟨_, rfl, leads⟩
  | jtag =>
    refine (yields_request (.connect .jtag) state).imp ?_ ?_
    · rintro reply next ⟨written, leads⟩
      cases reply with
      | swd => exact ⟨_, rfl, leads, nofun⟩
      | jtag => exact ⟨_, rfl, leads, fun _ ↦ ⟨.jtag, rfl, rfl⟩⟩
      | failed => exact ⟨_, rfl, leads⟩
    · rintro error next ⟨-, written, cause, leads⟩
      exact ⟨_, rfl, leads⟩

namespace Session

variable {config : Config} {capabilities : Capabilities} {protocol : WireProtocol}

/-- The port was asked for until it was granted. -/
def PortGranted (protocol : WireProtocol) (most : Nat) (session next : Session σ) : Prop :=
  ∃ (turns : List Turn) (transport : σ), Turn.Attempts protocol most turns ∧
    (∃ turn, turns.getLast? = some turn ∧ turn.Accepted) ∧
    Conversation session.link.transport (turns.map .turn) transport ∧
    next = { session with link.transport := transport }

/-- The port was asked for in vain. -/
def PortRefused (protocol : WireProtocol) (most : Nat) (session : Session σ)
    (error : SessionError) (next : Session σ) : Prop :=
  error.isRefusal = false ∧ next.config = session.config ∧
    ∃ turns : List Turn, Turn.Attempts protocol most turns ∧
      Conversation session.link.transport (turns.map .turn) next.link.transport

/-- The port is asked for until it is granted, but only so many times. -/
theorem yields_connectPort (protocol : WireProtocol) (total attempts : Nat) (session : Session σ) :
    (connectPort protocol total attempts).Yields session
      (fun _ ↦ session.PortGranted protocol attempts)
      (session.PortRefused protocol attempts) := by
  induction attempts generalizing session with
  | zero => exact ⟨rfl, rfl, [], ⟨Nat.le_refl 0, List.forall_mem_nil _⟩, .nil _⟩
  | succ attempts ih =>
    have first {turn : Turn} (asks : turn.request = .connect protocol.mode) {more : List Turn}
        (rest : Turn.Attempts protocol attempts more) :
        Turn.Attempts protocol (attempts + 1) (turn :: more) :=
      ⟨Nat.succ_le_succ rest.few, List.forall_mem_cons.mpr ⟨asks, rest.asks⟩⟩
    have none : Turn.Attempts protocol attempts [] := ⟨Nat.zero_le _, List.forall_mem_nil _⟩
    -- Where the port was not granted, the attempts that are left follow.
    have again {turn : Turn} {transport : σ} (asks : turn.request = .connect protocol.mode)
        (leads : turn.Leads session.link.transport transport) :
        (connectPort protocol total attempts).Yields
          { session with link.transport := transport }
          (fun _ ↦ session.PortGranted protocol (attempts + 1))
          (session.PortRefused protocol (attempts + 1)) := by
      refine (ih _).imp ?_ ?_
      · rintro _ _ ⟨turns, last, taken, ⟨granted, isLast, accepted⟩, conversation, rfl⟩
        refine ⟨turn :: turns, last, first asks taken, ⟨granted, ?_, accepted⟩,
          .turn leads conversation, rfl⟩
        rw [List.getLast?_cons, isLast]
        rfl
      · rintro error next ⟨unrefused, config, turns, taken, conversation⟩
        exact ⟨unrefused, config, turn :: turns, first asks taken, .turn leads conversation⟩
    unfold connectPort
    rw [Action.yields_bind, Action.yields_attempt, yields_onProbe]
    refine (Probe.yields_connectPort protocol _).imp ?_ ?_
    · rintro connected transport ⟨turn, asks, leads, accepted⟩
      dsimp only
      rw [Action.yields_ite]
      refine ⟨fun same ↦ ?_, fun _ ↦ again asks leads⟩
      exact ⟨[turn], transport, first asks none, ⟨turn, rfl, accepted same⟩,
        .turn leads (.nil _), rfl⟩
    · rintro error transport ⟨turn, asks, leads⟩
      dsimp only
      split
      · next value same => nomatch same
      · exact again asks leads
      · exact ⟨rfl, rfl, [turn], first asks none, .turn leads (.nil _)⟩

/-- The action performs steps and then changes the state of the link. -/
def Sets (steps : List (Request → Prop)) (change : LinkState → LinkState)
    (action : Action (Session σ) SessionError Unit) : Prop :=
  ∀ session : Session σ, action.Yields session
    (fun _ next ↦ ∃ (turns : List Turn) (transport : σ), Turn.Follow steps turns ∧
      Conversation session.link.transport (turns.map .turn) transport ∧
      next = { session with
        link := { session.link with transport, state := change session.link.state } })
    (fun error next ↦ error.isRefusal = false ∧ next.config = session.config ∧
      ∃ turns : List Turn, Turn.Take steps turns ∧
        Conversation session.link.transport (turns.map .turn) next.link.transport)

theorem sets_modifyState (change : LinkState → LinkState) :
    Sets (σ := σ) [] change (modifyState change) :=
  fun session ↦ ⟨[], session.link.transport, Turn.follow_nil, .nil _, rfl⟩

theorem sets_command {steps : List (Request → Prop)} {action : Action σ CommandError Unit}
    (performs : action.Performs steps) : Sets steps id (commandWhileConnecting action) := by
  intro session
  unfold commandWhileConnecting
  rw [Action.yields_mapError, yields_onProbe]
  refine (performs session.link.transport).imp ?_ ?_
  · rintro _ transport ⟨turns, follow, conversation⟩
    exact ⟨turns, transport, follow, conversation, rfl⟩
  · rintro error transport ⟨turns, take, conversation, -⟩
    exact ⟨rfl, rfl, turns, take, conversation⟩

/-- Waking the line is not refused where the protocol can select the target. -/
theorem sets_connectLine (possible : config.session.targetSel = none ∨ protocol = .swd) :
    Sets (σ := σ) (LineStep.requests (Line.switch protocol config.session.targetSel)) id
      ((onProbe (Line.connect protocol (.ofTargetSel config.session.targetSel))).mapError fun
        | .multidropNeedsSwd => .multidropUnsupported
        | .command error => .command error) := by
  intro session
  rw [Action.yields_mapError, yields_onProbe]
  refine (Line.yields_connect possible session.link.transport).imp ?_ ?_
  · rintro _ transport ⟨turns, follow, conversation⟩
    exact ⟨turns, transport, follow, conversation, rfl⟩
  · rintro _ transport ⟨cause, turns, rfl, take, conversation⟩
    exact ⟨rfl, rfl, turns, take, conversation⟩

/-- A connect that has gone through some phases, and goes on over a quiet link. -/
structure Going (capabilities : Capabilities) (protocol : WireProtocol) (start : Session σ)
    (dapIndex : UInt8) (phases : ConnectPhases) (session : Session σ) : Prop where
  taken : phases.Taken start.config capabilities protocol
  conversation :
    Conversation start.link.transport (phases.turns.map .turn) session.link.transport
  quiet : session.link.Quiet
  status : session.link.state.status = .connecting
  dapIndex : session.link.state.dapIndex = dapIndex
  config : session.config = start.config
  /-- The identification is read only if the answer fits into a packet. -/
  room : SteadySize σ → phases.reading ≠ [] → 7 ≤ Transport.packetSize start.link.transport

/-- The connect went through all its phases. -/
def Established (capabilities : Capabilities) (protocol : WireProtocol)
    (start next : Session σ) : Prop :=
  ∃ phases, Going capabilities protocol start (start.config.dapIndex protocol) phases next ∧
    phases.Told

/-- The connect stopped in one of its phases. -/
def Foundered (capabilities : Capabilities) (protocol : WireProtocol) (start : Session σ)
    (error : SessionError) (next : Session σ) : Prop :=
  error.isRefusal = false ∧ next.config = start.config ∧ ∃ phases : ConnectPhases,
    phases.Taken start.config capabilities protocol ∧ ¬phases.Told ∧
      Conversation start.link.transport (phases.turns.map .turn) next.link.transport

/-- What a part of a connect leads to, from a session in the middle of it. -/
def Concludes (capabilities : Capabilities) (protocol : WireProtocol) (start session : Session σ)
    (action : Action (Session σ) SessionError Unit) : Prop :=
  action.Yields session (fun _ ↦ start.Established capabilities protocol)
    (start.Foundered capabilities protocol)

section Phases

variable {start session : Session σ} {dapIndex dapIndex' : UInt8} {attempts opening : List Turn}

/-- A connect that goes on adds exchanges to those that there were. -/
theorem Going.converse {phases later : ConnectPhases} {more : List Turn} {transport : σ}
    (going : Going capabilities protocol start dapIndex phases session)
    (conversation : Conversation session.link.transport (more.map .turn) transport)
    (turns : later.turns = phases.turns ++ more) :
    Conversation start.link.transport (later.turns.map .turn) transport := by
  rw [turns, List.map_append]
  exact going.conversation.append conversation

/-- Some steps that open a port are taken, and what is left of the connect follows. -/
private theorem concludes_opening {steps more rest : List (Request → Prop)}
    (going : Going capabilities protocol start dapIndex { attempts, opening } session)
    (granted : ConnectPhases.Granted { attempts }) (follow : Turn.Follow steps opening)
    (all : steps ++ more ++ rest = start.config.openingSteps capabilities protocol)
    {change : LinkState → LinkState} {action : Action (Session σ) SessionError Unit}
    (sets : Sets more change action)
    (keeps : ∀ state, (change state).status = state.status ∧
      (change state).stickyError = state.stickyError ∧
      (change state).lineResetPending = state.lineResetPending)
    (index : (change session.link.state).dapIndex = dapIndex')
    {next : Unit → Action (Session σ) SessionError Unit}
    (later : ∀ opening session,
      Going capabilities protocol start dapIndex' { attempts, opening } session →
      Turn.Follow (steps ++ more) opening →
      start.Concludes capabilities protocol session (next ())) :
    start.Concludes capabilities protocol session (action >>= next) := by
  have extended {turns : List Turn} (take : Turn.Take more turns) :
      ConnectPhases.Taken start.config capabilities protocol
        { attempts, opening := opening ++ turns } :=
    { going.taken with
      opening := all ▸ (take.prepend follow).weaken rest
      granted := fun _ ↦ granted
      opened := absurd rfl }
  have spoken {turns : List Turn} {transport : σ}
      (conversation : Conversation session.link.transport (turns.map .turn) transport) :
      Conversation start.link.transport
        ((ConnectPhases.turns { attempts, opening := opening ++ turns }).map .turn) transport :=
    going.converse conversation (by simp [ConnectPhases.turns])
  unfold Concludes
  rw [Action.yields_bind]
  refine (sets session).imp ?_ ?_
  · rintro _ _ ⟨turns, transport, follows, conversation, rfl⟩
    obtain ⟨status, sticky, pending⟩ := keeps session.link.state
    have quiet := going.quiet
    refine later (opening ++ turns) _ ⟨extended follows.take, spoken conversation,
      ⟨quiet.batch, sticky.trans quiet.sticky, pending.trans quiet.pending⟩,
      status.trans going.status, index, going.config, fun _ ↦ absurd rfl⟩ (follow.append follows)
  · rintro error last ⟨unrefused, config, turns, take, conversation⟩
    exact ⟨unrefused, config.trans going.config, _, extended take, ConnectPhases.not_told rfl,
      spoken conversation⟩

/-- Accesses and commands go out as the connect goes on. -/
theorem Going.active {phases : ConnectPhases}
    (going : Going capabilities protocol start dapIndex phases session) :
    session.link.state.isActive = true := by
  unfold LinkState.isActive
  rw [going.status]
  rfl

/-- Both power domains acknowledged in the last exchange, and the link is still quiet. -/
structure PowerCame (session : Session σ) (turns : List Turn) (next : Session σ) : Prop where
  went : session.link.Went (·.isAccess = true) turns next.link
  quiet : next.link.Quiet
  config : next.config = session.config
  acknowledged : ∃ turn word, turns.getLast? = some turn ∧
    turn.Carried (RegisterAccess.read (.debug DebugPort.controlAddress)).transfer (some word) ∧
    ControlStatus.powered ⟨word⟩ = true

/-- Registers were accessed, and that failed. -/
def PowerLacks (session : Session σ) (error : SessionError) (next : Session σ) : Prop :=
  error.isRefusal = false ∧ next.config = session.config ∧
    ∃ turns, session.link.Went (·.isAccess = true) turns next.link

/-- What is awaited may be awaited after some accesses. -/
private theorem yields_after {middle : Session σ} {turns : List Turn}
    (went : session.link.Went (·.isAccess = true) turns middle.link) (still : middle.link.Quiet)
    (config : middle.config = session.config) {action : Action (Session σ) SessionError Unit}
    (awaits : action.Yields middle (fun _ next ↦ ∃ turns, middle.PowerCame turns next)
      middle.PowerLacks) :
    action.Yields middle (fun _ next ↦ ∃ turns, session.PowerCame turns next)
      session.PowerLacks := by
  refine awaits.imp ?_ ?_
  · rintro _ next ⟨more, came⟩
    obtain ⟨turn, word, last, carried, powered⟩ := came.acknowledged
    refine ⟨turns ++ more, went.append still came.went, came.quiet, came.config.trans config,
      turn, word, ?_, carried, powered⟩
    rw [List.getLast?_append, last]
    rfl
  · rintro error next ⟨unrefused, config', more, went'⟩
    exact ⟨unrefused, config'.trans config, turns ++ more, went.append still went'⟩

/-- The power acknowledges are looked at until both are there, but only so many times. -/
private theorem yields_awaitPower (polls : Nat) (quiet : session.link.Quiet) :
    (awaitPower polls).Yields session (fun _ next ↦ ∃ turns, session.PowerCame turns next)
      session.PowerLacks := by
  induction polls generalizing session with
  | zero => exact ⟨rfl, rfl, [], .nil _ _⟩
  | succ polls ih =>
    unfold awaitPower whileConnecting
    rw [Action.yields_bind, Action.yields_get, Action.yields_bind, Action.yields_mapError,
      yields_onLink]
    refine (yields_readRegister _ _ quiet).imp ?_ ?_
    · rintro word link ⟨turns, went, still, turn, last, carried⟩
      have went := went.mono fun _ sends ↦ sends.isAccess
      rw [Action.yields_ite]
      constructor
      · intro powered
        exact ⟨turns, went, still, rfl, turn, word, last, carried, powered⟩
      · intro _
        exact @yields_after σ _ session { session with link } _ went still rfl _ (ih still)
    · rintro error link ⟨turns, went, -⟩
      exact ⟨rfl, rfl, turns, went.mono fun _ sends ↦ sends.isAccess⟩

/-- Power is requested, and then awaited for as long as there is time. -/
private theorem yields_requestPower (operation : Operation) (transfer : TransferConfig)
    (request : UInt32) (polls : σ → Nat) (quiet : session.link.Quiet) :
    (do
      whileConnecting operation
        (writeRegister transfer (.debug DebugPort.controlAddress) request)
      let transport := (← get).link.transport
      awaitPower (polls transport)).Yields session
      (fun _ next ↦ ∃ turns, session.PowerCame turns next) session.PowerLacks := by
  unfold whileConnecting
  rw [Action.yields_bind, Action.yields_mapError, yields_onLink]
  refine (writeRegister_spares transfer _ request session.link quiet).imp ?_ ?_
  · rintro _ link ⟨⟨turns, went⟩, still⟩
    rw [Action.yields_bind, Action.yields_get]
    exact @yields_after σ _ session { session with link } _ went still rfl _
      (yields_awaitPower _ still)
  · rintro error link ⟨turns, went⟩
    exact ⟨rfl, rfl, turns, went⟩

/-- Power is requested and comes up, over a link that stays quiet. -/
private theorem yields_powerUp {reading : List Turn}
    (going : Going capabilities protocol start (start.config.dapIndex protocol)
      { attempts, opening, reading } session)
    (identified : ConnectPhases.Identified { attempts, opening, reading })
    (asked : start.config.session.powerUp = true) :
    powerUp.Yields session
      (fun _ next ↦ ∃ powering, Going capabilities protocol start (start.config.dapIndex protocol)
        { attempts, opening, reading, powering } next ∧
        ConnectPhases.Powered { attempts, opening, reading, powering })
      (start.Foundered capabilities protocol) := by
  have extended {powering : List Turn}
      (shape : ConnectPhases.Powering (start.config.dapIndex protocol) powering) :
      ConnectPhases.Taken start.config capabilities protocol
        { attempts, opening, reading, powering } :=
    { going.taken with
      powering := shape
      identified := fun _ ↦ ⟨asked, identified⟩
      ready := absurd rfl }
  have spoken {powering : List Turn} {transport : σ}
      (conversation : Conversation session.link.transport (powering.map .turn) transport) :
      Conversation start.link.transport
        ((ConnectPhases.turns { attempts, opening, reading, powering }).map .turn) transport :=
    going.converse conversation (by simp [ConnectPhases.turns])
  have quiet := going.quiet
  unfold powerUp
  rw [Action.yields_bind, Action.yields_get, Action.yields_bind]
  unfold whileConnecting
  rw [Action.yields_mapError, yields_onLink]
  refine (yields_clearing going.active).imp ?_ ?_
  · rintro _ _ ⟨turns, transport, follow, conversation, rfl⟩
    rw [going.dapIndex] at follow
    obtain ⟨abort, rfl, clears, accepted⟩ := follow.exists_turn
    have still : ({ session.link with
        transport, state := { session.link.state with stickyError := false } } : Link σ).Quiet :=
      ⟨quiet.batch, rfl, quiet.pending⟩
    refine (@yields_requestPower σ _ { session with link := _ } _ _ _
      (fun transport ↦ Transport.polls _ _ transport + 1) still).imp ?_ ?_
    · rintro _ next ⟨accesses, came⟩
      obtain ⟨turn, word, last, carried, powered⟩ := came.acknowledged
      have taken := extended
        (ConnectPhases.powering_of_accepted clears accepted came.went.requests)
      exact ⟨abort :: accesses, ⟨taken, spoken (conversation.append came.went.conversation),
        came.quiet, came.went.state.status.trans going.status,
        came.went.state.dapIndex.trans going.dapIndex, came.config.trans going.config,
        going.room⟩,
        abort, accesses, turn, word, rfl, accepted, last, carried, powered⟩
    · rintro error next ⟨unrefused, config, accesses, went⟩
      have taken := extended
        (ConnectPhases.powering_of_accepted clears accepted went.requests)
      exact ⟨unrefused, config.trans going.config, _, taken, ConnectPhases.not_told rfl,
        spoken (conversation.append went.conversation)⟩
  · rintro cause _ ⟨turns, transport, take, conversation, rfl⟩
    rw [going.dapIndex] at take
    exact ⟨rfl, going.config, _, extended (ConnectPhases.powering_of_take take),
      ConnectPhases.not_told rfl, spoken conversation⟩

/-- The probe is told last. -/
private theorem concludes_telling {reading powering : List Turn}
    (going : Going capabilities protocol start (start.config.dapIndex protocol)
      { attempts, opening, reading, powering } session)
    (identified : ConnectPhases.Identified { attempts, opening, reading, powering })
    (powered : start.config.session.powerUp = true →
      ConnectPhases.Powered { attempts, opening, reading, powering }) :
    start.Concludes capabilities protocol session
      (commandWhileConnecting (Probe.hostStatus true)) := by
  have extended {turn : Turn} (tells : turn.request = .hostStatus .connected true) :
      ConnectPhases.Taken start.config capabilities protocol
        { attempts, opening, reading, powering, telling := [turn] } :=
    { going.taken with
      telling := .inr ⟨turn, rfl, tells⟩
      ready := fun _ ↦ ⟨identified, powered⟩ }
  have spoken {turn : Turn} {transport : σ} (leads : turn.Leads session.link.transport transport) :
      Conversation start.link.transport
        ((ConnectPhases.turns { attempts, opening, reading, powering, telling := [turn] }).map
          .turn) transport := by
    have conversation : Conversation session.link.transport ([turn].map .turn) transport :=
      .turn leads (.nil transport)
    exact going.converse conversation (by simp [ConnectPhases.turns])
  unfold Concludes commandWhileConnecting Probe.hostStatus
  rw [Action.yields_mapError, yields_onProbe]
  refine (Probe.yields_request _ _).imp ?_ ?_
  · rintro reply transport ⟨written, leads⟩
    have quiet := going.quiet
    exact ⟨_, ⟨extended rfl, spoken leads, ⟨quiet.batch, quiet.sticky, quiet.pending⟩,
      going.status, going.dapIndex, going.config, going.room⟩, _, rfl, rfl⟩
  · rintro error transport ⟨-, written, cause, leads⟩
    refine ⟨rfl, going.config, _, extended rfl, ?_, spoken leads⟩
    rintro ⟨turn, only, answered⟩
    rw [← List.head_eq_of_cons_eq only] at answered
    nomatch answered

/-- Once the identification is read the target may be powered up, and the probe is told. -/
private theorem concludes_identified {reading : List Turn}
    (going : Going capabilities protocol start (start.config.dapIndex protocol)
      { attempts, opening, reading } session)
    (identified : ConnectPhases.Identified { attempts, opening, reading }) :
    start.Concludes capabilities protocol session (do
      if start.config.session.powerUp then powerUp
      commandWhileConnecting (Probe.hostStatus true)) := by
  unfold Concludes
  rw [Action.yields_ite]
  constructor
  · intro asked
    rw [Action.yields_bind]
    refine (yields_powerUp going identified asked).imp ?_ fun _ _ failed ↦ failed
    rintro _ next ⟨powering, going', powered⟩
    exact concludes_telling going' identified fun _ ↦ powered
  · intro unasked
    exact concludes_telling going identified fun asked ↦ absurd asked unasked

/-- The identification is the first thing that is read. -/
private theorem concludes_opened
    (going : Going capabilities protocol start (start.config.dapIndex protocol)
      { attempts, opening } session)
    (opened : ConnectPhases.Opened (start.config.openingSteps capabilities protocol)
      { attempts, opening }) :
    start.Concludes capabilities protocol session (do
      let dpidr ← whileConnecting (.readDp DebugPort.identificationAddress)
        (readRegister start.config.transfer (.debug DebugPort.identificationAddress))
      modifyState fun state ↦ { state with dpidr := some dpidr }
      if start.config.session.powerUp then powerUp
      commandWhileConnecting (Probe.hostStatus true)) := by
  have extended {reading : List Turn}
      (only : ∀ turn ∈ reading,
        turn.request = .identification (start.config.dapIndex protocol))
      (written : ∀ turn ∈ reading.head?, turn.written = true) :
      ConnectPhases.Taken start.config capabilities protocol { attempts, opening, reading } :=
    { going.taken with
      reading := only
      written
      opened := fun _ ↦ opened
      identified := absurd rfl
      ready := absurd rfl }
  have spoken {reading : List Turn} {transport : σ}
      (conversation : Conversation session.link.transport (reading.map .turn) transport) :
      Conversation start.link.transport
        ((ConnectPhases.turns { attempts, opening, reading }).map .turn) transport :=
    going.converse conversation (by simp [ConnectPhases.turns])
  unfold Concludes whileConnecting
  rw [Action.yields_bind, Action.yields_mapError, yields_onLink]
  refine (yields_readIdentification _ going.quiet going.active).imp ?_ ?_
  · rintro word link ⟨reading, ⟨went, written, narrow⟩, still, turn, last, carried⟩
    have only := went.requests
    rw [going.dapIndex] at only
    have room (steady : SteadySize σ) (read : reading ≠ []) :
        7 ≤ Transport.packetSize start.link.transport := by
      rw [← steady.turns going.conversation]
      exact Nat.le_of_not_lt fun small ↦ read (narrow.mpr small)
    rw [Action.yields_bind, yields_modifyState]
    exact concludes_identified ⟨extended only written, spoken went.conversation,
      ⟨still.batch, still.sticky, still.pending⟩, went.state.status.trans going.status,
      went.state.dapIndex.trans going.dapIndex, going.config, room⟩ ⟨turn, word, last, carried⟩
  · rintro error link ⟨reading, ⟨went, written, -⟩, -⟩
    have only := went.requests
    rw [going.dapIndex] at only
    exact ⟨rfl, going.config, _, extended only written, ConnectPhases.not_told rfl,
      spoken went.conversation⟩

/-- A connect goes through its phases, as far as each of them succeeds. -/
theorem establish_concludes (none : start.link.batch = {})
    (state : start.link.state = { status := .connecting })
    (possible : start.config.session.targetSel = .none ∨ protocol = .swd) :
    start.Concludes capabilities protocol start (establish capabilities protocol) := by
  have spoken {attempts : List Turn} {transport : σ}
      (conversation : Conversation start.link.transport (attempts.map .turn) transport) :
      Conversation start.link.transport
        ((ConnectPhases.turns { attempts }).map .turn) transport := by
    simpa only [ConnectPhases.turns, List.append_nil] using conversation
  unfold Concludes establish
  rw [Action.yields_bind, Action.yields_get, Action.yields_bind]
  refine (yields_connectPort protocol _ _ start).imp ?_ ?_
  · rintro _ _ ⟨attempts, transport, asked, granted, conversation, rfl⟩
    have going : Going capabilities protocol start 0 { attempts }
        { start with link.transport := transport } := by
      have quiet : ({ start.link with transport } : Link σ).Quiet := by
        refine ⟨none, ?_, ?_⟩ <;> simp only [state]
      refine ⟨ConnectPhases.taken_attempts asked, spoken conversation, quiet, ?_, ?_, rfl,
        fun _ ↦ absurd rfl⟩ <;> simp only [state]
    have unchanged (state : LinkState) : (id state).status = state.status ∧
        (id state).stickyError = state.stickyError ∧
        (id state).lineResetPending = state.lineResetPending := ⟨rfl, rfl, rfl⟩
    refine concludes_opening going granted Turn.follow_nil (by rfl) (sets_command
      (Probe.setClock_performs _)) unchanged going.dapIndex fun opening session going follow ↦ ?_
    refine concludes_opening going granted follow (by rfl)
      (sets_modifyState fun state ↦ { state with clock := some _ }) (fun _ ↦ ⟨rfl, rfl, rfl⟩)
      going.dapIndex fun opening session going follow ↦ ?_
    refine concludes_opening going granted follow (by rfl) (sets_command
      (Probe.configureTransfers_performs _)) unchanged going.dapIndex
      fun opening session going follow ↦ ?_
    cases protocol with
    | swd =>
      refine concludes_opening going granted follow (by rfl) (sets_command
        (Probe.configureSwd_performs _)) unchanged going.dapIndex
        fun opening session going follow ↦ ?_
      refine concludes_opening going granted follow (List.append_nil _) (sets_connectLine possible)
        unchanged going.dapIndex fun opening session going follow ↦ ?_
      exact concludes_opened going ⟨granted, follow⟩
    | jtag =>
      refine concludes_opening going granted follow (by rfl) (sets_command
        (Probe.configureJtag_performs _)) unchanged going.dapIndex
        fun opening session going follow ↦ ?_
      refine concludes_opening going granted follow (by rfl)
        (sets_modifyState fun state ↦ { state with dapIndex := start.config.session.jtagIndex })
        (fun _ ↦ ⟨rfl, rfl, rfl⟩) rfl fun opening session going follow ↦ ?_
      refine concludes_opening going granted follow (List.append_nil _) (sets_connectLine possible)
        unchanged going.dapIndex fun opening session going follow ↦ ?_
      exact concludes_opened going ⟨granted, follow⟩
  · rintro error next ⟨unrefused, config, attempts, asked, conversation⟩
    exact ⟨unrefused, config, _, ConnectPhases.taken_attempts asked, ConnectPhases.not_told rfl,
      spoken conversation⟩

end Phases

end Session

end DebugProbe
