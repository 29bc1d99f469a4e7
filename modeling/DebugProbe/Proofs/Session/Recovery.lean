import DebugProbe.Proofs.Session.Fitting

/-!
# The line is recovered before anything is accessed

After a missing acknowledge nothing is accessed until the line was recovered or the session was
connected anew, and then the identification is the first thing that is read. There is one exception,
which takes a transport that changes its packet size by itself: if packets are too small for the
answer by then, the call that recovered the line fails before it reads. The reset is only noted when
the acknowledge is missing, so this is a law of whole runs: it rests on what each call does to a
session whose line has to be reset, or which lost its connection since.
-/

namespace DebugProbe

/-- No registers are accessed. -/
def AccessFree (deeds : List Deed) : Prop :=
  ∀ turn, .turn turn ∈ deeds → turn.request.isAccess = false

section AccessFree

variable {deeds later : List Deed}

theorem AccessFree.append (first : AccessFree deeds) (second : AccessFree later) :
    AccessFree (deeds ++ later) :=
  fun turn member ↦ (List.mem_append.mp member).elim (first turn) (second turn)

theorem accessFree_nil : AccessFree [] := fun _ none ↦ absurd none List.not_mem_nil

theorem accessFree_drain : AccessFree [.drain] := fun _ member ↦ by simp at member

/-- Exchanges are free of accesses if their requests are. -/
theorem accessFree_turns {turns : List Turn}
    (free : ∀ turn ∈ turns, turn.request.isAccess = false) : AccessFree (turns.map .turn) := by
  intro turn member
  obtain ⟨taken, isTaken, same⟩ := List.mem_map.mp member
  rw [← Deed.turn.inj same]
  exact free taken isTaken

variable {σ : Type} [Transport σ]

/-- What is asked aside accesses nothing. -/
theorem Asked.accessFree {asks : Request → Prop} {before after : σ}
    (asked : Asked asks before deeds after)
    (aside : ∀ request, asks request → request.isAside = true) : AccessFree deeds :=
  fun turn member ↦ (Request.isAside_iff.mp (aside _ (asked.requests turn member))).1

/-- What sets a port up or drives the line accesses nothing. -/
theorem Request.isAccess_of_isOpening {request : Request} (opening : request.isOpening = true) :
    request.isAccess = false := by
  cases request <;> first | rfl | nomatch opening

/-- Driving the line accesses nothing. -/
theorem accessFree_of_take {steps : List LineStep} {turns : List Turn}
    (take : Turn.Take (LineStep.requests steps) turns) : AccessFree (turns.map .turn) := by
  refine accessFree_turns fun turn member ↦ ?_
  obtain ⟨step, isStep, drives⟩ := take.exists_step member
  obtain ⟨driven, -, rfl⟩ := List.mem_map.mp isStep
  exact Request.isAccess_of_isOpening (Request.isOpening_of_drives drives)

end AccessFree

variable {σ : Type} [Transport σ]

namespace Session

/-- The exchanges bring the target that was silent to listening again, or connect to it anew. -/
inductive Wakes (session : Session σ) : List Turn → UInt8 → Prop
  | recovered {protocol : WireProtocol} {turns : List Turn}
      (connected : session.link.state.status = .connected protocol)
      (follow : Turn.Follow
        (LineStep.requests (Line.recovery protocol session.config.session.targetSel)) turns) :
      Wakes session turns session.link.state.dapIndex
  | reconnected {capabilities : Capabilities} {protocol : WireProtocol}
      {attempts opening : List Turn}
      (asked : Turn.Attempts protocol (max session.config.session.connectAttempts 1) attempts)
      (granted : ∃ turn, attempts.getLast? = some turn ∧ turn.Accepted)
      (follow : Turn.Follow (session.config.openingSteps capabilities protocol) opening) :
      Wakes session (attempts ++ opening) (session.config.dapIndex protocol)

/-- Nothing is accessed before the target is woken, and then its identification is the first thing
to be read. -/
inductive Awakened (session : Session σ) : List Deed → Prop
  | read {early late : List Deed} {waking : List Turn} {first : Turn} {dapIndex : UInt8}
      (free : AccessFree early) (wakes : session.Wakes waking dapIndex)
      (isRead : first.request = .identification dapIndex) (written : first.written = true) :
      Awakened session (early ++ waking.map .turn ++ .turn first :: late)

/-- All that happens is that the line is recovered. The answer to a read of the identification does
not fit into a packet then. -/
structure OnlyRecovers (session : Session σ) (waking : List Turn) (next : Session σ) : Prop where
  pending : session.link.state.lineResetPending = true
  recovered : ∃ protocol, session.link.state.status = .connected protocol ∧
    Turn.Follow (LineStep.requests (Line.recovery protocol session.config.session.targetSel)) waking
  conversation : Conversation session.link.transport (waking.map .turn) next.link.transport
  narrow : Transport.packetSize next.link.transport < 7
  settled : next.link.state.lineResetPending = false

/-- One of the calls recovers the line and fails then, because the read of the identification is
refused by the batch. Nothing is accessed before that call or by it. -/
inductive Narrowed (session : Session σ) (calls : List SessionCall) : List Deed → Prop
  | full {earlier later : List SessionCall} {call : SessionCall} {operation : Operation}
      {early late : List Deed} {waking : List Turn} (split : calls = earlier ++ call :: later)
      (config : (session.after earlier).config = session.config)
      (before : Conversation session.link.transport early
        (session.after earlier).link.transport)
      (free : AccessFree (early ++ waking.map .turn))
      (recovers : (session.after earlier).OnlyRecovers waking (session.after (earlier ++ [call])))
      (refused : (call.action.outcome (session.after earlier)).1 =
        .error (.operation ⟨operation, .batchFull⟩))
      (rest : Conversation (session.after (earlier ++ [call])).link.transport late
        (session.after calls).link.transport) :
      Narrowed session calls (early ++ waking.map .turn ++ late)

section Wariness

variable {start session next : Session σ} {deeds : List Deed} {failure : Option AccessError}

omit [Transport σ] in
/-- What was free of accesses may come before. -/
theorem Awakened.prepend (awakened : start.Awakened deeds) {early : List Deed}
    (free : AccessFree early) : start.Awakened (early ++ deeds) := by
  cases awakened with
  | read free' wakes isRead written =>
    rw [← List.append_assoc, ← List.append_assoc]
    exact .read (free.append free') wakes isRead written

omit [Transport σ] in
/-- Anything may come after. -/
theorem Awakened.append (awakened : start.Awakened deeds) (later : List Deed) :
    start.Awakened (deeds ++ later) := by
  cases awakened with
  | read free wakes isRead written =>
    rw [List.append_assoc, List.cons_append]
    exact .read free wakes isRead written

/-- A call that accesses nothing may come before. -/
theorem Narrowed.prepend {call : SessionCall} {calls : List SessionCall} {early : List Deed}
    (narrowed : ((call.action.outcome session).2).Narrowed calls deeds)
    (config : (call.action.outcome session).2.config = session.config) (free : AccessFree early)
    (conversation : Conversation session.link.transport early
      (call.action.outcome session).2.link.transport) :
    session.Narrowed (call :: calls) (early ++ deeds) := by
  cases narrowed with
  | @full earlier later refusing operation meanwhile late waking split kept before spared recovers
      refused rest =>
    have longer : call :: calls = (call :: earlier) ++ refusing :: later :=
      congrArg (call :: ·) split
    rw [← List.append_assoc, ← List.append_assoc]
    refine .full longer (kept.trans config) (conversation.append before) ?_ recovers refused rest
    rw [List.append_assoc]
    exact free.append spared

/-- Over a transport whose packet size changes only where it is set, a connected session has room
for the answer to a read. -/
theorem Narrowed.unsteady {calls : List SessionCall} (narrowed : session.Narrowed calls deeds)
    (reached : session.Reached) : ¬SteadySize σ := by
  intro steady
  cases narrowed with
  | @full earlier later call operation early late waking split config before free recovers =>
    obtain ⟨protocol, status, -⟩ := recovers.recovered
    have room :=
      (reached.after earlier).room steady (LinkState.isConnected_of_connected status)
    have narrow := recovers.narrow
    rw [steady.turns recovers.conversation] at narrow
    omega

/-- The target is still silent, or the session lost it. -/
structure Dozes (start session : Session σ) : Prop where
  config : session.config = start.config
  silent : session.Blank ∨ session.link.state.lineResetPending = true ∧
    session.link.state.status = start.link.state.status ∧
    session.link.state.dapIndex = start.link.state.dapIndex

/-- What one call does while the target dozes: nothing is accessed and it still dozes, or it is
woken first. If it is only woken then the call fails, because there is no room for the answer to a
read. -/
inductive Stirs (start session : Session σ) (failure : Option AccessError) :
    List Deed → Session σ → Prop
  | dozes {deeds : List Deed} {next : Session σ} (free : AccessFree deeds)
      (dozes : start.Dozes next) : Stirs start session failure deeds next
  | awakened {deeds : List Deed} {next : Session σ} (awakened : start.Awakened deeds) :
      Stirs start session failure deeds next
  | narrowed {waking : List Turn} {next : Session σ} (recovers : session.OnlyRecovers waking next)
      (config : next.config = session.config) (refused : failure = some .batchFull) :
      Stirs start session failure (waking.map .turn) next

omit [Transport σ] in
/-- A target that is connected and dozes is silent. -/
theorem Dozes.silent_of_connected (dozes : start.Dozes session)
    (connected : session.link.state.isConnected = true) :
    session.link.state.lineResetPending = true ∧
      session.link.state.status = start.link.state.status ∧
      session.link.state.dapIndex = start.link.state.dapIndex := by
  rcases dozes.silent with blank | silent
  · rw [blank.state] at connected
    nomatch connected
  · exact silent

/-- Once the line is recovered the identification is read. -/
private theorem Woke.awakened {recovery reading : List Turn} {link : Link σ}
    (woke : session.Woke recovery reading link) (dozes : start.Dozes session)
    (read : reading ≠ []) (more : List Turn) :
    start.Awakened ((recovery ++ reading ++ more).map .turn) := by
  obtain ⟨protocol, connected, follow⟩ := woke.recovered
  obtain ⟨-, status, index⟩ :=
    dozes.silent_of_connected (LinkState.isConnected_of_connected connected)
  rw [status] at connected
  rw [dozes.config] at follow
  obtain ⟨woken, -, went, written, -⟩ := woke.read
  obtain ⟨first, rest, rfl⟩ := List.exists_cons_of_ne_nil read
  have isRead : first.request = .identification start.link.state.dapIndex := by
    rw [← index]
    exact went.requests first List.mem_cons_self
  have awakened : start.Awakened
      ([] ++ recovery.map .turn ++ .turn first :: (rest ++ more).map .turn) :=
    .read accessFree_nil (.recovered connected follow) isRead (written first rfl)
  rw [List.append_assoc, List.map_append]
  exact awakened

/-- Where the identification is not even asked for, there is no room for the answer. -/
private theorem Woke.onlyRecovers {recovery : List Turn} {link : Link σ}
    (woke : session.Woke recovery [] link) :
    session.OnlyRecovers recovery { session with link } := by
  obtain ⟨woken, before, went, -, narrow⟩ := woke.read
  have same : link.transport = woken := by
    cases went.conversation
    rfl
  have settled : link.state.lineResetPending = false := by
    have marked := went.state
    generalize link.state = state at marked
    cases marked with
    | calm cache => rfl
    | fault last => nomatch last
    | silent last => nomatch last
  refine ⟨woke.pending, woke.recovered, ?_, ?_, settled⟩
  · show Conversation _ _ link.transport
    rw [same]
    exact before
  · show Transport.packetSize link.transport < 7
    rw [same]
    exact narrow.mp rfl

/-- What a course of an operation does while the target dozes. -/
theorem Course.stirs (sound : session.Sound) (dozes : start.Dozes session)
    (course : session.Course failure deeds next) : start.Stirs session failure deeds next := by
  cases course with
  | speak clock capabilities asked =>
    refine .dozes (asked.accessFree fun _ ↦ id) ⟨dozes.config, ?_⟩
    refine dozes.silent.imp (fun blank ↦ ⟨blank.batch, ?_⟩) id
    rw [blank.state]
  | drop asked =>
    refine .dozes (asked.accessFree ?_) ⟨dozes.config, ?_⟩
    · rintro _ rfl
      rfl
    · refine dozes.silent.imp (fun blank ↦ ⟨rfl, ?_⟩) id
      rw [blank.state]
  | clear active follow conversation =>
    obtain ⟨turn, rfl, clears, -⟩ := follow.exists_turn
    refine .dozes (accessFree_turns ?_) ⟨dozes.config, ?_⟩
    · rw [List.forall_mem_singleton, clears]
      rfl
    · refine dozes.silent.imp (fun blank ↦ ⟨blank.batch, ?_⟩) id
      rw [blank.state]
  | stir pending connected take conversation unbroken =>
    exact .dozes (accessFree_of_take take) ⟨dozes.config,
      dozes.silent.imp (fun blank ↦ ⟨blank.batch, blank.state⟩) id⟩
  | @wake recovery reading link none woke full =>
    rw [← List.append_nil (recovery ++ reading)]
    cases reading with
    | nil =>
      rw [List.append_nil, List.append_nil]
      exact .narrowed woke.onlyRecovers rfl (full rfl)
    | cons first rest => exact .awakened (woke.awakened dozes (List.cons_ne_nil first rest) [])
  | access connected prepared accessed =>
    obtain ⟨pending, -⟩ := dozes.silent_of_connected connected
    cases prepared with
    | still quiet => simp [quiet.pending] at pending
    | cleared none sticky => simp [sound.exclusive sticky] at pending
    | woken word woke read quiet => exact .awakened (woke.awakened dozes read _)
  | queue loaded some built =>
    obtain ⟨pending, -⟩ := dozes.silent_of_connected loaded.connected
    simp [loaded.pending] at pending
  | send loaded went =>
    obtain ⟨pending, -⟩ := dozes.silent_of_connected loaded.connected
    simp [loaded.pending] at pending

section Connecting

variable {config : Config} {capabilities : Capabilities} {protocol : WireProtocol}
  {phases : ConnectPhases}

omit [Transport σ] in
/-- A connect that did not come to reading the identification accessed nothing. -/
private theorem accessFree_phases (taken : phases.Taken config capabilities protocol)
    (unread : phases.reading = []) : AccessFree (phases.turns.map .turn) := by
  have unpowered : phases.powering = [] := by
    by_contra powered
    obtain ⟨-, turn, word, last, -⟩ := taken.identified powered
    rw [unread] at last
    nomatch last
  refine accessFree_turns fun turn member ↦ ?_
  unfold ConnectPhases.turns at member
  rw [unread, unpowered] at member
  simp only [List.append_nil, List.mem_append] at member
  rcases member with (attempt | opening) | telling
  · rw [taken.attempts.asks turn attempt]
    rfl
  · obtain ⟨step, isStep, holds⟩ := taken.opening.exists_step opening
    exact Request.isAccess_of_isOpening (Config.isOpening_of_step isStep holds)
  · rcases taken.telling with none | ⟨told, only, tells⟩
    · rw [none] at telling
      nomatch telling
    · rw [only] at telling
      obtain rfl := List.mem_singleton.mp telling
      rw [tells]
      rfl

omit [Transport σ] in
/-- A connect that came to reading the identification had woken the line. -/
private theorem awakened_phases (same : config = start.config)
    (taken : phases.Taken config capabilities protocol) (read : phases.reading ≠ []) :
    start.Awakened (phases.turns.map .turn) := by
  subst same
  obtain ⟨granted, follow⟩ := taken.opened read
  obtain ⟨first, rest, reading⟩ := List.exists_cons_of_ne_nil read
  have isFirst : first ∈ phases.reading.head? := by
    rw [reading]
    rfl
  have isRead := taken.reading first (List.mem_of_mem_head? isFirst)
  have awakened : start.Awakened ([] ++ (phases.attempts ++ phases.opening).map .turn ++
      .turn first :: (rest ++ phases.powering ++ phases.telling).map .turn) :=
    .read accessFree_nil (.reconnected taken.attempts granted follow) isRead
      (taken.written first isFirst)
  simpa [ConnectPhases.turns, reading] using awakened

omit [Transport σ] in
/-- A connect accesses nothing, and fails, or it wakes the target first. -/
private theorem Connects.stirs {hint : Option WireProtocol} {known : Option Capabilities}
    {result : Except SessionError WireProtocol} (same : config = start.config)
    (connects : Connects config hint known result deeds) :
    AccessFree deeds ∧ result.isOk = false ∨ start.Awakened deeds := by
  have asked {asking : List Deed}
      (inquires : ∀ turn, .turn turn ∈ asking → turn.request.isInquiry = true) :
      AccessFree asking := fun turn member ↦
    (Request.isAside_iff.mp (Request.isAside_of_isInquiry _ (inquires turn member))).1
  cases connects with
  | @unknown error asking unrefused inquires =>
    refine .inl ⟨?_, rfl⟩
    split
    · exact (asked inquires).append accessFree_drain
    · exact asked inquires
  | refused inquires refusal => exact .inl ⟨asked inquires, rfl⟩
  | @foundered _ _ _ _ phases inquires chosen taken untold =>
    by_cases unread : phases.reading = []
    · have free := (asked inquires).append (accessFree_phases taken unread)
      exact .inl ⟨free.append accessFree_drain, rfl⟩
    · exact .inr (((awakened_phases same taken unread).prepend (asked inquires)).append _)
  | @done _ _ _ phases inquires chosen taken told =>
    exact .inr ((awakened_phases same taken (taken.read told)).prepend (asked inquires))

end Connecting

/-- What a call does while the target dozes. -/
theorem Step.stirs (sound : session.Sound) (dozes : start.Dozes session)
    (step : session.Step failure deeds next) : start.Stirs session failure deeds next := by
  cases step with
  | kept course unbroken => exact course.stirs sound dozes
  | @lost _ last course broken =>
    cases course.stirs sound dozes with
    | dozes free dozes =>
      exact .dozes (free.append accessFree_drain) ⟨dozes.config, .inl (blank_abandon last)⟩
    | awakened awakened => exact .awakened (awakened.append _)
    | narrowed recovers config refused =>
      rw [refused] at broken
      nomatch broken
  | parted parts =>
    exact .dozes (parts.asked.accessFree fun _ ↦ id)
      ⟨parts.config.trans dozes.config, .inl parts.blank⟩
  | connected parts succeeds =>
    have closing := parts.asked.accessFree fun _ ↦ id
    rcases succeeds.course.stirs (parts.config.trans dozes.config) with ⟨-, failed⟩ | awakened
    · nomatch failed
    · exact .awakened (awakened.prepend closing)
  | unconnected parts fails =>
    have closing := parts.asked.accessFree fun _ ↦ id
    have config := parts.config.trans dozes.config
    rcases fails.course.stirs config with ⟨free, -⟩ | awakened
    · exact .dozes (closing.append free) ⟨fails.config.trans config, .inl fails.blank⟩
    · exact .awakened (awakened.prepend closing)

/-- Calls converse with the transport, and leave the session in good order. -/
private theorem Sound.converses (sound : session.Sound) (calls : List SessionCall) :
    ∃ deeds, Conversation session.link.transport deeds (session.after calls).link.transport := by
  induction calls generalizing session with
  | nil => exact ⟨[], .nil _⟩
  | cons call rest ih =>
    obtain ⟨deeds, step⟩ := sound.exists_step call
    obtain ⟨more, conversation⟩ := ih (step.sound sound)
    exact ⟨deeds ++ more, step.conversation.append conversation⟩

/-- What calls do while the target dozes: nothing is accessed, or it is woken first, or one of them
fails because there is no room for the answer to a read. -/
theorem Dozes.run (dozes : start.Dozes session) (sound : session.Sound)
    (calls : List SessionCall) :
    ∃ deeds, Conversation session.link.transport deeds (session.after calls).link.transport ∧
      (AccessFree deeds ∨ start.Awakened deeds ∨ session.Narrowed calls deeds) := by
  induction calls generalizing session with
  | nil => exact ⟨[], .nil _, .inl accessFree_nil⟩
  | cons call rest ih =>
    obtain ⟨deeds, step⟩ := sound.exists_step call
    have still := step.sound sound
    have conversation := step.conversation
    generalize same : call.failure? session = failure at step
    cases step.stirs sound dozes with
    | dozes free later =>
      obtain ⟨more, ensuing, law⟩ := ih later still
      refine ⟨deeds ++ more, conversation.append ensuing, ?_⟩
      rcases law with spared | awakened | narrowed
      · exact .inl (free.append spared)
      · exact .inr (.inl (awakened.prepend free))
      · exact .inr (.inr
          (narrowed.prepend (later.config.trans dozes.config.symm) free conversation))
    | awakened awakened =>
      obtain ⟨more, ensuing⟩ := still.converses rest
      exact ⟨deeds ++ more, conversation.append ensuing, .inr (.inl (awakened.append more))⟩
    | @narrowed waking _ recovers config refused =>
      obtain ⟨more, ensuing⟩ := still.converses rest
      obtain ⟨operation, fails⟩ := SessionCall.exists_operation_of_failure? (same.trans refused)
      obtain ⟨protocol, -, follow⟩ := recovers.recovered
      have free : AccessFree ([] ++ waking.map .turn) := accessFree_of_take follow.take
      have split : call :: rest = [] ++ call :: rest := rfl
      exact ⟨_, conversation.append ensuing, .inr (.inr
        (.full split rfl (.nil _) free recovers fails ensuing))⟩

end Wariness

section Failing

variable {session next : Session σ} {deeds : List Deed} {failure : Option AccessError}

/-- Accesses do not drive the line. -/
private theorem isLine_of_isAccess {request : Request} (isAccess : request.isAccess = true) :
    request.isLine = false := by
  cases request <;> first | rfl | nomatch isAccess

/-- Where the line was recovered, all that drove it was accepted. -/
private theorem Woke.accepted {recovery reading : List Turn} {link : Link σ}
    (woke : session.Woke recovery reading link) {turn : Turn}
    (member : turn ∈ recovery ++ reading) (isLine : turn.request.isLine = true) :
    turn.Accepted := by
  obtain ⟨protocol, -, follow⟩ := woke.recovered
  obtain ⟨woken, -, went, -⟩ := woke.read
  rcases List.mem_append.mp member with recovering | read
  · exact follow.accepted turn recovering
  · rw [went.requests turn read] at isLine
    nomatch isLine

private theorem PutRight.accepted {turns : List Turn} {link : Link σ}
    (prepared : session.PutRight turns link) {turn : Turn} (member : turn ∈ turns)
    (isLine : turn.request.isLine = true) : turn.Accepted := by
  cases prepared with
  | still quiet => nomatch member
  | cleared none sticky clears follow conversation => exact follow.accepted turn member
  | woken word woke read quiet => exact woke.accepted member isLine

/-- An operation that drives the line in vain leaves the target as silent as it was. -/
theorem Course.unrecovered (course : session.Course failure deeds next) {turn : Turn}
    (member : .turn turn ∈ deeds) (isLine : turn.request.isLine = true)
    (refused : ¬turn.Accepted) :
    next.link.state = session.link.state ∧
      failure.any AccessError.isBroken = !turn.result.isOk := by
  have among {turns : List Turn} (member : Deed.turn turn ∈ turns.map .turn) : turn ∈ turns := by
    simpa using member
  have aside {asks : Request → Prop} {last : σ}
      (asked : Asked asks session.link.transport deeds last)
      (only : ∀ request, asks request → request.isAside = true) : False := by
    have still := (Request.isAside_iff.mp (only _ (asked.requests turn member))).2
    simp [isLine] at still
  have accessing {turns : List Turn} (only : ∀ turn ∈ turns, turn.request.isAccess = true)
      (member : turn ∈ turns) : False := by
    have still := isLine_of_isAccess (only turn member)
    simp [isLine] at still
  cases course with
  | speak clock capabilities asked => exact (aside asked fun _ ↦ id).elim
  | drop asked =>
    refine (aside asked ?_).elim
    rintro _ rfl
    rfl
  | clear active follow conversation =>
    exact absurd (follow.accepted turn (among member)) refused
  | @stir protocol turns transport pending connected take conversation unbroken =>
    refine ⟨rfl, ?_⟩
    obtain ⟨front, rfl, accepted⟩ := take.exists_front (among member) refused
    have answered : ∀ other ∈ front, other.result.isOk = true := fun other early ↦
      (accepted other early).isOk
    have ended : failure.any AccessError.isBroken = false ↔ turn.result.isOk = true := by
      rw [unbroken, List.forall_mem_append, List.forall_mem_singleton]
      exact ⟨And.right, fun last ↦ ⟨answered, last⟩⟩
    cases broken : failure.any AccessError.isBroken <;> simpa [broken] using ended
  | wake none woke full => exact absurd (woke.accepted (among member) isLine) refused
  | access connected prepared accessed =>
    rcases List.mem_append.mp (among member) with preparing | more
    · exact absurd (prepared.accepted preparing isLine) refused
    · cases accessed with
      | went went => exact (accessing went.requests more).elim
      | queued active built => nomatch more
  | queue loaded some built => nomatch member
  | send loaded went => exact (accessing went.requests (among member)).elim

/-- Where the line was driven in vain, the target is as silent as it was if the probe answered, and
the connection is over if it did not. -/
def Unrecovered (session : Session σ) (deeds : List Deed) (next : Session σ) : Prop :=
  ∀ turn, .turn turn ∈ deeds → turn.request.isLine = true → ¬turn.Accepted →
    (turn.result.isOk = true → next.link.state = session.link.state) ∧
      (turn.result.isOk = false → next.link.state.status = .disconnected)

/-- The course of an operation, with the end that a broken exchange makes of it. -/
theorem Course.ends (course : session.Course failure deeds next) {broken : Bool}
    (ending : failure.any AccessError.isBroken = broken) :
    ∃ deeds, Conversation session.link.transport deeds (next.afterFailure broken).link.transport ∧
      session.Unrecovered deeds (next.afterFailure broken) := by
  cases broken with
  | false =>
    refine ⟨deeds, course.conversation, fun turn member isLine refused ↦ ?_⟩
    obtain ⟨same, answered⟩ := course.unrecovered member isLine refused
    exact ⟨fun _ ↦ same, fun lost ↦ by simp [ending, lost] at answered⟩
  | true =>
    refine ⟨deeds ++ [.drain], course.conversation.append (.drain (.nil _)), ?_⟩
    intro turn member isLine refused
    have member : .turn turn ∈ deeds := by simpa using member
    obtain ⟨-, answered⟩ := course.unrecovered member isLine refused
    exact ⟨fun kept ↦ by simp [ending, kept] at answered, fun _ ↦ rfl⟩

/-- An operation of a session in good order may drive the line in vain. -/
theorem Sound.exists_unrecovered (sound : session.Sound) {call : SessionCall}
    (operates : call.operates = true) :
    ∃ deeds, Conversation session.link.transport deeds (session.after [call]).link.transport ∧
      session.Unrecovered deeds (session.after [call]) := by
  have ends : call.action.Yields session
      (fun _ next ↦ ∃ deeds, Conversation session.link.transport deeds next.link.transport ∧
        session.Unrecovered deeds next)
      (fun _ next ↦ ∃ deeds, Conversation session.link.transport deeds next.link.transport ∧
        session.Unrecovered deeds next) := by
    refine (operates_call sound operates).imp ?_ ?_
    · rintro _ next ⟨deeds, course⟩
      exact course.ends rfl
    · rintro error _ ⟨deeds, last, course, rfl⟩
      exact course.ends error.any_cause?
  exact ends.left

end Failing

/-- From a session whose target is silent, or that is not connected, nothing is accessed until the
line was recovered or the session was connected anew, and the identification is read first. Only
where the packet size changes by itself may it be left out: the call that recovers the line then
fails, because the batch refuses the read, and accesses nothing. An operation that drives the line
in vain leaves the target silent if the probe answers, and ends the connection if it does not. -/
theorem Reached.recovered_before_access {session : Session (Recorded σ)} (reached : session.Reached)
    (silent : session.link.state.lineResetPending = true ∨
      session.link.state.status = .disconnected) :
    (∀ calls : List SessionCall, ∃ deeds,
      session.link.transport.Saw deeds (session.after calls).link.transport ∧
        (AccessFree deeds ∨ session.Awakened deeds ∨
          ¬SteadySize σ ∧ session.Narrowed calls deeds)) ∧
    ∀ call : SessionCall, call.operates = true → ∃ deeds,
      session.link.transport.Saw deeds (session.after [call]).link.transport ∧
        session.Unrecovered deeds (session.after [call]) := by
  have sound := reached.sound
  have dozes : session.Dozes session := by
    refine ⟨rfl, silent.symm.imp (fun disconnected ↦ sound.blank ?_) fun pending ↦
      ⟨pending, rfl, rfl⟩⟩
    exact LinkState.isConnected_of_disconnected disconnected
  constructor
  · intro calls
    obtain ⟨deeds, conversation, law⟩ := dozes.run sound calls
    refine ⟨deeds, conversation.saw, law.imp_right (Or.imp_right fun narrowed ↦ ?_)⟩
    exact ⟨fun steady ↦ narrowed.unsteady reached steady.recorded, narrowed⟩
  · intro call operates
    obtain ⟨deeds, conversation, unrecovered⟩ := sound.exists_unrecovered operates
    exact ⟨deeds, conversation.saw, unrecovered⟩

/-- A session over a simulated probe whose target will not acknowledge a read. -/
private def answering : Session (Recorded Simulator) :=
  .new { inner := { target := { answers := [.ok, .noAck] } } }
    { session := { protocol := .jtag, powerUp := false } }

/-- A session whose target did not acknowledge a read. -/
private def unheeded : Session (Recorded Simulator) :=
  answering.after [.call (.connect none), .call (.readAp 0xFC)]

private theorem pending_unheeded : unheeded.link.state.lineResetPending = true := by
  decide +kernel

/-- After a missing acknowledge the line is recovered before a read, and the identification is read
first, as a simulated probe keeps its packet size. -/
theorem Reached.recovered_before_access_unheeded :
    unheeded.Reached ∧ unheeded.link.state.lineResetPending = true ∧
      ∃ deeds, unheeded.link.transport.Saw deeds
          (unheeded.after [.call (.readAp 0xFC)]).link.transport ∧
        (AccessFree deeds ∨ unheeded.Awakened deeds) := by
  have fresh : answering.Reached := .new _ _
  have reached : unheeded.Reached := fresh.after _
  obtain ⟨deeds, saw, law⟩ :=
    (reached.recovered_before_access (.inl pending_unheeded)).1 [.call (.readAp 0xFC)]
  refine ⟨reached, pending_unheeded, deeds, saw, law.imp_right (Or.resolve_right · ?_)⟩
  exact fun narrowed ↦ narrowed.1 Simulator.lastingSize.toSteadySize

section Wire

/-- Whether the event is a frame that accesses registers. -/
private def accesses : WireEvent → Bool
  | .frame (code :: _) => code == 0x05 || code == 0x06
  | _ => false

private theorem accesses_frame (request : Request) :
    accesses (.frame request.frame) = request.isAccess := by
  cases request <;> rfl

/-- Deeds that access nothing add no frame that accesses registers to the record. -/
private theorem filter_of_accessFree {deeds : List Deed} (free : AccessFree deeds) :
    (deeds.flatMap Deed.events).filter accesses = [] := by
  rw [List.filter_eq_nil_iff]
  intro event member
  obtain ⟨deed, isDeed, isEvent⟩ := List.mem_flatMap.mp member
  cases deed with
  | turn turn =>
    have isEvent : event ∈ turn.events := isEvent
    unfold Turn.events at isEvent
    split at isEvent
    · obtain rfl := List.mem_singleton.mp isEvent
      rw [accesses_frame, free turn isDeed]
      exact Bool.false_ne_true
    · nomatch isEvent
  | drain =>
    obtain rfl := List.mem_singleton.mp isEvent
    nofun
  | resize size =>
    obtain rfl := List.mem_singleton.mp isEvent
    nofun

omit [Transport σ] in
/-- What wakes the target accesses nothing. -/
private theorem Wakes.accessFree {session : Session σ} {waking : List Turn} {dapIndex : UInt8}
    (wakes : session.Wakes waking dapIndex) : AccessFree (waking.map .turn) := by
  cases wakes with
  | recovered connected follow => exact accessFree_of_take follow.take
  | reconnected asked granted follow =>
    refine accessFree_turns fun turn member ↦ ?_
    rcases List.mem_append.mp member with attempt | opening
    · rw [asked.asks turn attempt]
      rfl
    · obtain ⟨step, isStep, holds⟩ := follow.take.exists_step opening
      exact Request.isAccess_of_isOpening (Config.isOpening_of_step isStep holds)

omit [Transport σ] in
/-- Where the target was woken, the first frame that accesses registers reads the identification. -/
private theorem Awakened.filter {session : Session σ} {deeds : List Deed}
    (awakened : session.Awakened deeds) :
    ∃ dapIndex rest,
      (deeds.flatMap Deed.events).filter accesses = .frame [0x05, dapIndex, 1, 2] :: rest := by
  cases awakened with
  | @read early late waking first dapIndex free wakes isRead written =>
    refine ⟨dapIndex, (late.flatMap Deed.events).filter accesses, ?_⟩
    have reads : (Deed.turn first).events = [.frame [0x05, dapIndex, 1, 2]] := by
      show first.events = _
      unfold Turn.events
      rw [if_pos written, isRead]
      rfl
    rw [List.flatMap_append, List.flatMap_append, List.flatMap_cons, reads, List.filter_append,
      List.filter_append, filter_of_accessFree free, filter_of_accessFree wakes.accessFree]
    rfl

/-- A simulated probe whose packets are smaller after so many frames, until the next one. -/
private structure Pinched where
  inner : Simulator
  pinch : Nat

private instance : Transport Pinched where
  write frame := Action.within Pinched.inner (fun inner pinched ↦ { pinched with inner })
    (Transport.write frame)
  read := Action.within Pinched.inner (fun inner pinched ↦ { pinched with inner }) Transport.read
  drain pinched := { pinched with inner := Transport.drain pinched.inner }
  packetSize pinched :=
    if pinched.inner.codes.size = pinched.pinch then 6 else Transport.packetSize pinched.inner
  setPacketSize size pinched :=
    { pinched with inner := Transport.setPacketSize size pinched.inner }
  polls time pause pinched := Transport.polls time pause pinched.inner

/-- A session before its target does not acknowledge a read. -/
private def unpinched : Session (Recorded Pinched) :=
  .new { inner := { inner := { target := { answers := [.ok, .noAck] } }, pinch := 16 } }
    { session := { protocol := .jtag, powerUp := false } }

/-- A session whose target did not acknowledge a read, and where packets will be too small for the
answer to a read once the line was recovered. -/
private def pinched : Session (Recorded Pinched) :=
  unpinched.after [.call (.connect none), .call (.readAp 0xFC)]

/-- A read that recovers the line, and another one once packets are large enough again. -/
private def regained : List SessionCall :=
  [.call (.readDp 0), .call .clearStickyErrors, .call (.readAp 0xFC)]

private theorem history_pinched :
    (pinched.after regained).link.transport.history = pinched.link.transport.history ++
      [.frame [0x14, 2, 0x45, 0x1F, 1, 1], .frame [0x08, 0, 0x1E, 0, 0, 0],
        .frame [0x05, 0, 2, 0x08, 0xF0, 0, 0, 0, 0x0F]] := by
  decide +kernel

/-- After a missing acknowledge registers may be accessed before the identification is read: where
its answer does not fit into a packet when the line is recovered, it is not read later either. -/
theorem unread_of_pinched :
    pinched.Reached ∧ pinched.link.state.lineResetPending = true ∧
      ∀ deeds, pinched.link.transport.Saw deeds (pinched.after regained).link.transport →
        ¬AccessFree deeds ∧ ¬pinched.Awakened deeds := by
  have fresh : unpinched.Reached := .new _ _
  have reached : pinched.Reached := fresh.after _
  have pending : pinched.link.state.lineResetPending = true := by decide +kernel
  refine ⟨reached, pending, fun deeds saw ↦ ?_⟩
  have added := List.append_cancel_left (saw.history.symm.trans history_pinched)
  have accessed : (deeds.flatMap Deed.events).filter accesses =
      [.frame [0x05, 0, 2, 0x08, 0xF0, 0, 0, 0, 0x0F]] := by
    rw [added]
    rfl
  constructor
  · intro free
    rw [filter_of_accessFree free] at accessed
    nomatch accessed
  · intro awakened
    obtain ⟨dapIndex, rest, first⟩ := awakened.filter
    rw [accessed] at first
    simp at first

end Wire

end Session

end DebugProbe
