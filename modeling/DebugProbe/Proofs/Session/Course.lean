import DebugProbe.Proofs.Line.Levels
import DebugProbe.Proofs.Link.Refusing
import DebugProbe.Proofs.Probe.Inquiry
import DebugProbe.Proofs.Session.Escalation

/-!
# What an operation does

Between calls a session is in good order: at most one condition has to be dealt with, and accesses
wait only where there is none. From such a session every operation takes one of a few courses, each
of which is told by the exchanges that it makes and the session that it leaves: it speaks with the
probe only, it puts right what was left behind and then accesses registers, or it stops on the way.
-/

namespace DebugProbe

/-- Whether the request clocks a sequence out on the line. -/
def Request.isLine : Request → Bool
  | lineSequence _ | jtagScan _ => true
  | _ => false

/-- Whether the request neither accesses registers nor drives the line. -/
def Request.isAside (request : Request) : Bool := !request.isAccess && !request.isLine

theorem Request.isAside_iff {request : Request} :
    request.isAside = true ↔ request.isAccess = false ∧ request.isLine = false := by
  simp [isAside]

/-- What is asked of the probe about itself is asked aside. -/
theorem Request.isAside_of_isInquiry (request : Request) (isInquiry : request.isInquiry = true) :
    request.isAside = true := by
  cases request <;> first | rfl | nomatch isInquiry

/-- The request has all sticky errors of a target cleared. -/
def Abort.Clears (dapIndex : UInt8) (request : Request) : Prop :=
  request = .writeAbort dapIndex clearSticky.word

/-- The read of the identification. -/
def Transfer.identification : Transfer := ⟨.debug, DebugPort.identificationAddress, none⟩

/-- The read of the identification, by itself. -/
def Request.identification (dapIndex : UInt8) : Request := .transfer ⟨dapIndex, [.identification]⟩

variable {σ : Type} [Transport σ]

/-- Accesses were carried out, or one was put into the batch of a quiet link. -/
inductive Link.Accessed (link : Link σ) : List Turn → Link σ → Prop
  | went {turns : List Turn} {next : Link σ} (went : link.Went (·.isAccess = true) turns next) :
      Accessed link turns next
  | queued {batch : Batch} {access : RegisterAccess} (active : link.state.isActive = true)
      (built : batch.Built link.state.selectCache [access]) : Accessed link [] { link with batch }

/-- The identification was to be read. The frame went out exactly if the answer to it fits into a
packet. -/
structure Link.Identifies (link : Link σ) (turns : List Turn) (next : Link σ) : Prop where
  went : link.Went (· = .identification link.state.dapIndex) turns next
  written : ∀ turn ∈ turns.head?, turn.written = true
  narrow : turns = [] ↔ Transport.packetSize link.transport < 7

namespace Session

omit [Transport σ] in
/-- Accesses wait, and nothing stands in their way. -/
structure Loaded (session : Session σ) : Prop where
  connected : session.link.state.isConnected = true
  sticky : session.link.state.stickyError = false
  pending : session.link.state.lineResetPending = false
  built : ∃ start accesses, accesses ≠ [] ∧ session.link.batch.Built start accesses

omit [Transport σ] in
/-- Nothing is known of the target, and no access waits. -/
structure Blank (session : Session σ) : Prop where
  batch : session.link.batch = {}
  state : session.link.state = { clock := session.link.state.clock }

omit [Transport σ] in
/-- A session in good order, as every call leaves it. -/
structure Sound (session : Session σ) : Prop where
  exclusive : session.link.state.stickyError = true → session.link.state.lineResetPending = false
  unknown : session.link.state.lineResetPending = true → session.link.state.selectCache = none
  batch : session.link.batch = {} ∨ session.Loaded
  blank : session.link.state.isConnected = false → session.Blank

/-- The line was recovered, then the identification was to be read, and this is the link after it.
-/
structure Woke (session : Session σ) (recovery reading : List Turn) (next : Link σ) : Prop where
  pending : session.link.state.lineResetPending = true
  recovered : ∃ protocol, session.link.state.status = .connected protocol ∧
    Turn.Follow (LineStep.requests (Line.recovery protocol session.config.session.targetSel))
      recovery
  read : ∃ woken, Conversation session.link.transport (recovery.map .turn) woken ∧
    ({ session.link with
        transport := woken
        state := { session.link.state with
          selectCache := none, lineResetPending := false } } : Link σ).Identifies reading next

/-- What had to be put right before an access was put right, and this is the link after it. -/
inductive PutRight (session : Session σ) : List Turn → Link σ → Prop
  | still (quiet : session.link.Quiet) : PutRight session [] session.link
  | cleared {turns : List Turn} {transport : σ} (none : session.link.batch = {})
      (sticky : session.link.state.stickyError = true)
      (clears : session.config.session.autoClearSticky = true)
      (follow : Turn.Follow [Abort.Clears session.link.state.dapIndex] turns)
      (conversation : Conversation session.link.transport (turns.map .turn) transport) :
      PutRight session turns
        { session.link with transport, state := { session.link.state with stickyError := false } }
  | woken {recovery reading : List Turn} {link : Link σ} (word : UInt32)
      (woke : session.Woke recovery reading link) (read : reading ≠ []) (quiet : link.Quiet) :
      PutRight session (recovery ++ reading)
        { link with state := { link.state with dpidr := some word } }

/-- The courses that an operation can take. `failure` tells why it fails, if it does. -/
inductive Course (session : Session σ) (failure : Option AccessError) :
    List Deed → Session σ → Prop
  /-- It only speaks with the probe, or does not even do that. -/
  | speak {deeds : List Deed} {transport : σ} (clock : Option UInt32)
      (capabilities : Option Capabilities)
      (asked : Asked (·.isAside = true) session.link.transport deeds transport) :
      Course session failure deeds { session with
        link := { session.link with transport, state := { session.link.state with clock } }
        capabilities }
  /-- It drops the batch. -/
  | drop {deeds : List Deed} {transport : σ}
      (asked : Asked (· = .transferAbort) session.link.transport deeds transport) :
      Course session failure deeds { session with
        link := { transport, state := { session.link.state with selectCache := none } } }
  /-- It clears sticky errors. -/
  | clear {turns : List Turn} {transport : σ} (active : session.link.state.isActive = true)
      (follow : Turn.Follow [Abort.Clears session.link.state.dapIndex] turns)
      (conversation : Conversation session.link.transport (turns.map .turn) transport) :
      Course session failure (turns.map .turn) { session with
        link := { session.link with
          transport, state := { session.link.state with stickyError := false } } }
  /-- It stops in the middle of recovering the line. -/
  | stir {protocol : WireProtocol} {turns : List Turn} {transport : σ}
      (pending : session.link.state.lineResetPending = true)
      (connected : session.link.state.status = .connected protocol)
      (take : Turn.Take
        (LineStep.requests (Line.recovery protocol session.config.session.targetSel)) turns)
      (conversation : Conversation session.link.transport (turns.map .turn) transport)
      (unbroken : failure.any AccessError.isBroken = false ↔
        ∀ turn ∈ turns, turn.result.isOk = true) :
      Course session failure (turns.map .turn) { session with link.transport := transport }
  /-- It recovers the line, but cannot read the identification. If that was not even asked for, the
  read did not fit into a packet. -/
  | wake {recovery reading : List Turn} {link : Link σ} (none : session.link.batch = {})
      (woke : session.Woke recovery reading link)
      (full : reading = [] → failure = some .batchFull) :
      Course session failure ((recovery ++ reading).map .turn) { session with link }
  /-- It puts right what has to be, and then accesses registers or queues an access. -/
  | access {turns more : List Turn} {link next : Link σ}
      (connected : session.link.state.isConnected = true) (prepared : session.PutRight turns link)
      (accessed : link.Accessed more next) :
      Course session failure ((turns ++ more).map .turn) { session with link := next }
  /-- It queues one more access. -/
  | queue {batch : Batch} {start : Option Select} {accesses : List RegisterAccess}
      (loaded : session.Loaded) (some : accesses ≠ []) (built : batch.Built start accesses) :
      Course session failure [] { session with link := { session.link with batch } }
  /-- It sends the batch. -/
  | send {turns : List Turn} {next : Link σ} (loaded : session.Loaded)
      (went : session.link.discard.Went (·.isAccess = true) turns next) :
      Course session failure (turns.map .turn) { session with link := next }

section Preparing

variable {session : Session σ} {failure : Option AccessError}

/-- Nothing need be done. -/
theorem course_nil (session : Session σ) (failure : Option AccessError) :
    session.Course failure [] session :=
  .speak session.link.state.clock session.capabilities (Asked.isPath.nil _)

private theorem recoverySequences_performs (protocol : WireProtocol) (targetSel : Option UInt32) :
    (recoverySequences protocol targetSel).Performs (σ := σ)
      (LineStep.requests (Line.recovery protocol targetSel)) := by
  cases protocol with
  | jtag => exact Line.tapReset_performs
  | swd =>
    cases targetSel with
    | none =>
      exact (Line.reset_performs (by decide)).bind_pure (f := fun _ ↦ ())
    | some targetSel =>
      exact (Line.reset_performs (by decide)).bind fun _ ↦
        (Line.targetSelect_performs targetSel).bind fun _ ↦
          Line.idle_performs (by decide) (by decide)

/-- The read of the identification goes out by itself, as it does not depend on SELECT. -/
private theorem sends_identification {dapIndex : UInt8} {cache : Option Select} {request : Request}
    (sends : Link.Sends dapIndex
      (Batch.entriesFor cache (.read (.debug DebugPort.identificationAddress)) 0) request) :
    request = .identification dapIndex := by
  obtain ⟨part, some, among, rfl⟩ := sends
  rcases List.sublist_singleton.mp among with rfl | rfl
  · exact absurd rfl some
  · rfl

/-- The read of the identification fits into a packet exactly if the answer to it does. -/
private theorem fits_identification (cache : Option Select) (packetSize : Nat) :
    Batch.fits (Batch.entriesFor cache (.read (.debug DebugPort.identificationAddress)) 0)
      packetSize = true ↔ 7 ≤ packetSize := by
  rw [Batch.fits_iff 0]
  have count : (TransferRequest.ofEntries 0
      (Batch.entriesFor cache (.read (.debug DebugPort.identificationAddress)) 0)).transfers.length
      = 1 := rfl
  have asked : (TransferRequest.ofEntries 0
      (Batch.entriesFor cache (.read (.debug DebugPort.identificationAddress)) 0)).requestSize =
      4 := rfl
  have answered : (TransferRequest.ofEntries 0
      (Batch.entriesFor cache (.read (.debug DebugPort.identificationAddress)) 0)).replySize =
      7 := rfl
  have most : TransferRequest.maxCount = 255 := rfl
  unfold TransferRequest.Fits
  omega

/-- The read of the identification is written if it fits into a packet. -/
private theorem encode_identification (dapIndex : UInt8) {packetSize : Nat}
    (room : 7 ≤ packetSize) :
    ((Request.identification dapIndex).encode packetSize).isOk = true := by
  have length : (Request.identification dapIndex).frame.length = 4 := rfl
  rcases Request.encode_of_overflow
    (rfl : (Request.identification dapIndex).overflow? packetSize = none) with
    ⟨-, encoded⟩ | ⟨large, -⟩
  · rw [encoded]
    rfl
  · omega

/-- On a quiet link a register is read at once. The last exchange gives the word, and the link is
still quiet; nothing is exchanged only if the link is down or the read does not fit. -/
theorem yields_readRegister (config : TransferConfig) (register : RegisterAddress) {link : Link σ}
    (quiet : link.Quiet) :
    (readRegister config register).Yields link
      (fun word next ↦ ∃ turns,
        link.Went (Link.Sends link.state.dapIndex
          (Batch.entriesFor link.state.selectCache (.read register) 0)) turns next ∧ next.Quiet ∧
        ∃ turn, turns.getLast? = some turn ∧
          turn.Carried (RegisterAccess.read register).transfer (some word))
      (fun error next ↦ ∃ turns,
        link.Went (Link.Sends link.state.dapIndex
          (Batch.entriesFor link.state.selectCache (.read register) 0)) turns next ∧
        (turns = [] → link.state.isActive = true → error = .batchFull ∧
          Batch.fits (Batch.entriesFor link.state.selectCache (.read register) 0)
            (Transport.packetSize link.transport) = false)) := by
  unfold readRegister
  rw [Action.yields_bind]
  refine (Link.yields_run config _ quiet).imp ?_ fun _ _ failed ↦ failed
  rintro value next ⟨turns, went, still, turn, last, carried⟩
  rw [Action.yields_ofExcept]
  cases value with
  | some word => exact ⟨turns, went, still, turn, last, carried⟩
  | none =>
    refine ⟨turns, went, fun none ↦ ?_⟩
    rw [none] at last
    nomatch last

/-- On a quiet link the identification is read by itself, exactly if the answer to it fits; it is
refused otherwise. -/
theorem yields_readIdentification (config : TransferConfig) {link : Link σ} (quiet : link.Quiet)
    (active : link.state.isActive = true) :
    (readRegister config (.debug DebugPort.identificationAddress)).Yields link
      (fun word next ↦ ∃ turns, link.Identifies turns next ∧ next.Quiet ∧
        ∃ turn, turns.getLast? = some turn ∧ turn.Carried .identification (some word))
      (fun error next ↦ ∃ turns, link.Identifies turns next ∧
        (turns = [] → error = .batchFull)) := by
  by_cases room : 7 ≤ Transport.packetSize link.transport
  · have fits := (fits_identification link.state.selectCache _).mpr room
    have identifies {turns : List Turn} {next : Link σ} (some : turns ≠ [])
        (went : link.Went (· = .identification link.state.dapIndex) turns next) :
        link.Identifies turns next := by
      refine ⟨went, ?_, by simp [some, room]⟩
      rintro turn first
      obtain ⟨rest, rfl⟩ := List.head?_eq_some_iff.mp first
      have isRead := went.requests turn List.mem_cons_self
      cases went.conversation with
      | turn leads later =>
        rw [leads.1, isRead]
        exact encode_identification _ room
    refine (yields_readRegister config _ quiet).imp ?_ ?_
    · rintro word next ⟨turns, went, still, turn, last, carried⟩
      have some : turns ≠ [] := by
        rintro rfl
        nomatch last
      exact ⟨turns, identifies some (went.mono fun _ ↦ sends_identification), still, turn, last,
        carried⟩
    · rintro error next ⟨turns, went, refused⟩
      have some : turns ≠ [] := by
        intro none
        obtain ⟨-, large⟩ := refused none active
        rw [fits] at large
        nomatch large
      exact ⟨turns, identifies some (went.mono fun _ ↦ sends_identification),
        fun none ↦ absurd none some⟩
  · have large : Batch.fits (Batch.entriesFor link.state.selectCache
        (.read (.debug DebugPort.identificationAddress)) 0)
        (Transport.packetSize link.transport) = false := by
      rw [Bool.eq_false_iff, Ne, fits_identification]
      exact room
    have refuses : link.Refuses .batchFull
        (readRegister config (.debug DebugPort.identificationAddress)) :=
      (Link.run_refuses_full quiet active large config).bind _
    refine Action.Yields.imp refuses (fun _ _ never ↦ never.elim) ?_
    rintro _ _ ⟨rfl, rfl⟩
    exact ⟨[], ⟨.nil _ _, fun _ ↦ (nomatch ·), by simp [Nat.lt_of_not_le room]⟩, fun _ ↦ rfl⟩

/-- A pending line reset is made and the identification is read, or that stops on the way and leaves
the batch as it is. -/
private theorem yields_recoverLine (none : session.link.batch = {})
    (clear : session.link.state.stickyError = false)
    (pending : session.link.state.lineResetPending = true)
    (connected : session.link.state.isConnected = true) :
    recoverLine.Yields session
      (fun _ next ↦ ∃ turns link, session.PutRight turns link ∧ next = { session with link })
      (fun error next ↦ (∃ deeds, session.Course (some error) deeds next) ∧
        next.link.batch = session.link.batch) := by
  obtain ⟨protocol, status⟩ := LinkState.isConnected_iff.mp connected
  have named : session.link.state.protocol? = some protocol := by
    unfold LinkState.protocol?
    rw [status]
  unfold recoverLine
  rw [Action.yields_bind, Action.yields_get]
  dsimp only
  rw [named, Option.getD_some, Action.yields_bind, yields_onLink, Link.yields_command]
  refine (recoverySequences_performs protocol _ session.link.transport).imp ?_ ?_
  · rintro _ woken ⟨recovery, follow, before⟩
    rw [Action.yields_bind, yields_modifyState, Action.yields_bind, yields_onLink]
    have quiet : ({ session.link with
        transport := woken
        state := { session.link.state with
          selectCache := Option.none, lineResetPending := false } } : Link σ).Quiet :=
      ⟨none, clear, rfl⟩
    have active := LinkState.isActive_of_isConnected connected
    refine (yields_readIdentification _ quiet active).imp ?_ ?_
    · rintro word next ⟨reading, identifies, still, turn, last, -⟩
      have read : reading ≠ [] := by
        rintro rfl
        nomatch last
      rw [yields_modifyState]
      exact ⟨_, _, .woken word ⟨pending, ⟨protocol, status, follow⟩, woken, before, identifies⟩
        read still, rfl⟩
    · rintro error next ⟨reading, identifies, full⟩
      have woke : session.Woke recovery reading next :=
        ⟨pending, ⟨protocol, status, follow⟩, woken, before, identifies⟩
      exact ⟨⟨_, .wake none woke fun unread ↦ congrArg some (full unread)⟩, identifies.went.batch⟩
  · rintro error transport ⟨turns, take, conversation, unbroken⟩
    exact ⟨⟨_, .stir pending status take conversation unbroken⟩, rfl⟩

/-- Sticky errors are cleared if the write of ABORT is accepted. -/
theorem yields_clearing {link : Link σ} (active : link.state.isActive = true) :
    Link.clearStickyErrors.Yields link
      (fun _ next ↦ ∃ turns transport,
        Turn.Follow [Abort.Clears link.state.dapIndex] turns ∧
        Conversation link.transport (turns.map .turn) transport ∧
        next = { link with transport, state := { link.state with stickyError := false } })
      (fun _ next ↦ ∃ turns transport,
        Turn.Take [Abort.Clears link.state.dapIndex] turns ∧
        Conversation link.transport (turns.map .turn) transport ∧
        next = { link with transport }) := by
  have performs := Probe.writeAbort_performs (σ := σ) link.state.dapIndex Abort.clearSticky.word
  unfold Link.clearStickyErrors
  simp only [Action.yields_bind, Action.yields_get, Action.yields_ite, active, Bool.not_true,
    Link.yields_command, Link.yields_modifyState]
  refine ⟨(absurd · Bool.false_ne_true), fun _ ↦ (performs link.transport).imp ?_ ?_⟩
  · rintro _ transport ⟨turns, follow, conversation⟩
    exact ⟨turns, transport, follow, conversation, rfl⟩
  · rintro _ transport ⟨turns, take, conversation, -⟩
    exact ⟨turns, transport, take, conversation, rfl⟩

/-- A write of ABORT that was not accepted changes nothing. -/
theorem course_of_take {turns : List Turn} {transport : σ}
    (take : Turn.Take [Abort.Clears session.link.state.dapIndex] turns)
    (conversation : Conversation session.link.transport (turns.map .turn) transport) :
    session.Course failure (turns.map .turn) { session with link.transport := transport } := by
  refine .speak session.link.state.clock session.capabilities (asked_turns conversation ?_)
  intro turn member
  obtain ⟨step, isStep, taken⟩ := take.exists_step member
  obtain rfl := List.mem_singleton.mp isStep
  have request : turn.request = .writeAbort session.link.state.dapIndex _ := taken
  rw [request]
  rfl

/-- Nothing is put right where nothing has to be, or where that is left to the caller. -/
theorem yields_prepare_of_held (connected : session.link.state.isConnected = true)
    (pending : session.link.state.lineResetPending = false)
    (held : session.link.state.stickyError = true →
      session.config.session.autoClearSticky = false)
    {done : Unit → Session σ → Prop} {failed : AccessError → Session σ → Prop} :
    prepare.Yields session done failed ↔ done () session := by
  unfold prepare
  cases sticky : session.link.state.stickyError with
  | true => simp [connected, pending, sticky, held sticky]
  | false => simp [connected, pending, sticky]

omit [Transport σ] in
/-- Accesses that are run at once are refused for as long as others wait. -/
theorem Loaded.blocked (loaded : session.Loaded) : session.link.Blocked .batchPending := by
  obtain ⟨start, accesses, some, built⟩ := loaded.built
  refine .batch (LinkState.isActive_of_isConnected loaded.connected) loaded.sticky ?_
  unfold Batch.isEmpty
  rw [built.requests, beq_eq_false_iff_ne]
  exact fun zero ↦ some (List.length_eq_zero_iff.mp zero)

/-- A connected session is prepared for an access, unless there is a reason to refuse it that is
left to the caller. Where that stops on the way the batch is left as it is. -/
theorem yields_prepare_connected (sound : session.Sound)
    (connected : session.link.state.isConnected = true) :
    prepare.Yields session
      (fun _ next ↦ (∃ turns link, session.PutRight turns link ∧ next = { session with link }) ∨
        next = session ∧ ∃ cause, session.link.Blocked cause)
      (fun error next ↦ (∃ deeds, session.Course (some error) deeds next) ∧
        next.link.batch = session.link.batch) := by
  have active := LinkState.isActive_of_isConnected connected
  rcases sound.batch with none | loaded
  · cases sticky : session.link.state.stickyError with
    | true =>
      have settled := sound.exclusive sticky
      cases clears : session.config.session.autoClearSticky with
      | true =>
        unfold prepare
        simp only [Action.yields_bind, Action.yields_get, Action.yields_ite, connected, sticky,
          clears, Bool.and_self, Bool.not_true, yields_onLink]
        refine ⟨(absurd · Bool.false_ne_true), fun _ ↦ ⟨fun _ ↦ ?_, absurd trivial⟩⟩
        refine (yields_clearing active).imp ?_ ?_
        · rintro _ _ ⟨turns, transport, follow, conversation, rfl⟩
          refine ⟨fun isPending ↦ ?_, fun _ ↦ ?_⟩
          · exact absurd isPending (Bool.eq_false_iff.mp settled)
          · exact .inl ⟨turns, _, .cleared none sticky clears follow conversation, rfl⟩
        · rintro _ _ ⟨turns, transport, take, conversation, rfl⟩
          exact ⟨⟨_, course_of_take take conversation⟩, rfl⟩
      | false =>
        rw [yields_prepare_of_held connected settled fun _ ↦ clears]
        exact .inr ⟨rfl, _, .sticky active sticky none⟩
    | false =>
      cases pending : session.link.state.lineResetPending with
      | true =>
        unfold prepare
        simp only [Action.yields_bind, Action.yields_get, Action.yields_ite, connected, sticky,
          pending, Bool.false_and, Bool.not_true]
        refine ⟨(absurd · Bool.false_ne_true), fun _ ↦ ⟨(absurd · Bool.false_ne_true),
          fun _ ↦ ⟨fun _ ↦ ?_, absurd trivial⟩⟩⟩
        exact (yields_recoverLine none sticky pending connected).imp
          (fun _ _ prepared ↦ .inl prepared) fun _ _ stopped ↦ stopped
      | false =>
        rw [yields_prepare ⟨connected, sticky, pending⟩]
        exact .inl ⟨[], _, .still ⟨none, sticky, pending⟩, rfl⟩
  · rw [yields_prepare ⟨connected, loaded.sticky, loaded.pending⟩]
    exact .inr ⟨rfl, _, loaded.blocked⟩

/-- What was put right leaves a quiet link to the same target. -/
theorem PutRight.quiet (sound : session.Sound) {turns : List Turn} {link : Link σ}
    (prepared : session.PutRight turns link) :
    link.Quiet ∧ link.state.status = session.link.state.status ∧
      link.state.dapIndex = session.link.state.dapIndex := by
  cases prepared with
  | still quiet => exact ⟨quiet, rfl, rfl⟩
  | cleared none sticky => exact ⟨⟨none, rfl, sound.exclusive sticky⟩, rfl, rfl⟩
  | woken word woke read quiet =>
    obtain ⟨woken, -, went, -⟩ := woke.read
    exact ⟨⟨quiet.batch, quiet.sticky, quiet.pending⟩, went.state.status, went.state.dapIndex⟩

/-- The exchanges that recover the line and read the identification. -/
theorem Woke.conversation {recovery reading : List Turn} {next : Link σ}
    (woke : session.Woke recovery reading next) :
    Conversation session.link.transport ((recovery ++ reading).map .turn) next.transport := by
  obtain ⟨woken, before, went, -⟩ := woke.read
  rw [List.map_append]
  exact before.append went.conversation

theorem PutRight.conversation {turns : List Turn} {link : Link σ}
    (prepared : session.PutRight turns link) :
    Conversation session.link.transport (turns.map .turn) link.transport := by
  cases prepared with
  | still quiet => exact .nil _
  | cleared none sticky clears follow conversation => exact conversation
  | woken word woke read quiet => exact woke.conversation

/-- The deeds of a course lead from the transport before it to the one after it. -/
theorem Course.conversation {deeds : List Deed} {next : Session σ}
    (course : session.Course failure deeds next) :
    Conversation session.link.transport deeds next.link.transport := by
  cases course with
  | speak clock capabilities asked => exact asked.conversation
  | drop asked => exact asked.conversation
  | clear active follow conversation => exact conversation
  | stir pending connected take conversation unbroken => exact conversation
  | wake none woke full => exact woke.conversation
  | access connected prepared accessed =>
    rw [List.map_append]
    refine prepared.conversation.append ?_
    cases accessed with
    | went went => exact went.conversation
    | queued active built => exact .nil _
  | queue loaded some built => exact .nil _
  | send loaded went => exact went.conversation

end Preparing

end Session

end DebugProbe
