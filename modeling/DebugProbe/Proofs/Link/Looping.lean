import DebugProbe.Proofs.Bounds.Link
import DebugProbe.Proofs.Link.Retry

/-!
# Batches as loops that retry

Sending a batch follows the course of a loop that retries after a WAIT. It takes an answer that
contradicts itself for an error and exchanges nothing between its frames. Nothing is assumed about
the transport.
-/

namespace DebugProbe

open Turn (Apart)

variable {σ : Type} [Transport σ]

namespace Probe

/-- The request was answered by a report. -/
def Reported (request : Request) (state : σ) (count : Nat) (status : TransferStatus) (next : σ) :
    Prop :=
  ∃ turn : Turn, turn.request = request ∧
    turn.report? = some ⟨request.accessCount, count, status⟩ ∧
    Conversation state [.turn turn] next

/-- The request got no answer that can be read. -/
def Unanswered (request : Request) (state : σ) (error : CommandError) (next : σ) : Prop :=
  ∃ (turn : Turn) (cause : ExchangeError), turn.request = request ∧ turn.report? = none ∧
    error = .exchange request.command cause ∧ Conversation state [.turn turn] next

/-- A command is one exchange, and its failure tells why there is no answer. -/
private theorem yields_send_cause (request : Request) (state : σ) :
    (send request).Yields state
      (fun reply next ↦ ∃ written, Turn.Leads ⟨request, written, .ok reply⟩ state next)
      (fun error next ↦ ∃ written cause, error = .exchange request.command cause ∧
        Turn.Leads ⟨request, written, .error cause⟩ state next) := by
  unfold send
  rw [Action.yields_mapError]
  exact yields_turn.imp (fun _ _ leads ↦ leads)
    fun error _ ⟨written, leads⟩ ↦ ⟨written, error, rfl, leads⟩

/-- A transfer command is answered by a report about no more than its transfers. -/
theorem yields_transfer_report (request : TransferRequest) (state : σ) :
    (transfer request).Yields state
      (fun reply next ↦ (reply.data.length = reply.count ∧
          reply.count ≤ request.transfers.length) ∧
        Reported (.transfer request) state reply.count reply.status next)
      (Unanswered (.transfer request) state) := by
  refine ((yields_transfer request state).and
    (yields_send_cause (.transfer request) state)).imp ?_ ?_
  · rintro reply next ⟨⟨counted, -⟩, written, leads⟩
    exact ⟨counted, _, rfl, rfl, .turn leads (.nil next)⟩
  · rintro error next ⟨-, written, cause, rfl, leads⟩
    exact ⟨_, cause, rfl, rfl, rfl, .turn leads (.nil next)⟩

/-- A block command is answered by a report about no more than the accesses it announces. -/
theorem yields_transferBlock_report (request : BlockRequest) (state : σ) :
    (transferBlock request).Yields state
      (fun reply next ↦ reply.count ≤ request.access.count.toNat ∧
        Reported (.transferBlock request) state reply.count reply.status next)
      (Unanswered (.transferBlock request) state) := by
  refine ((yields_parsed rfl state).and
    (yields_send_cause (.transferBlock request) state)).imp ?_ ?_
  · rintro reply next ⟨⟨payload, parsed⟩, written, leads⟩
    exact ⟨BlockRequest.count_of_parse parsed, _, rfl, rfl, .turn leads (.nil next)⟩
  · rintro error next ⟨-, written, cause, rfl, leads⟩
    exact ⟨_, cause, rfl, rfl, rfl, .turn leads (.nil next)⟩

end Probe

/-- The failure that a status stands for, `none` for none. -/
def AccessStatus.failure? : AccessStatus → Option AccessError
  | .ok => none
  | failure => some (.ofStatus failure)

theorem AccessStatus.failure?_of_ne_ok {status : AccessStatus} (notOk : status ≠ .ok) :
    status.failure? = some (.ofStatus status) := by
  cases status with
  | ok => exact absurd rfl notOk
  | fault | noResponse | retryExhausted | aborted => rfl

namespace Batch

/-- The first failure among responses. -/
def failure? (responses : List AccessResponse) : Option AccessError :=
  responses.findSome? fun response ↦ response.status.failure?

@[simp] theorem failure?_singleton (response : AccessResponse) :
    failure? [response] = response.status.failure? := by
  unfold failure?
  rw [List.findSome?_cons, List.findSome?_nil]
  cases response.status.failure? <;> rfl

/-- How responses tell what became of entries: all accesses are OK, or those up to a failure, after
which none was tried. -/
structure Told (entries : List BatchEntry) (responses : List AccessResponse)
    (ending : Option AccessError) : Prop where
  index : responses.map AccessResponse.index = entries.filterMap BatchEntry.origin
  status : ∃ done, ending = none ∧
      responses.map AccessResponse.status = List.replicate done .ok ∨
    ∃ failure dropped,
      (failure = .fault ∨ failure = .noResponse ∨ failure = .retryExhausted) ∧
      ending = some (.ofStatus failure) ∧ responses.map AccessResponse.status =
        List.replicate done .ok ++ failure :: List.replicate dropped .aborted

variable {entries frame : List BatchEntry} {data : List (Option UInt32)}
  {responses : List AccessResponse} {ending : Option AccessError}

theorem told_nil : Told [] [] none := ⟨rfl, 0, .inl ⟨rfl, rfl⟩⟩

/-- The responses to entries of which the first one that is an access failed. -/
theorem told_failed {failure : AccessStatus}
    (kind : failure = .fault ∨ failure = .noResponse ∨ failure = .retryExhausted)
    (left : entries ≠ []) (ends : ∀ entry ∈ entries.getLast?, entry.origin.isSome = true) :
    Told entries (failed failure entries) (some (.ofStatus failure)) where
  index := index_failed failure entries
  status := by
    have last := ends _ (List.getLast?_eq_some_getLast left)
    obtain ⟨index, origin⟩ := Option.isSome_iff_exists.mp last
    have carried : index ∈ entries.filterMap BatchEntry.origin :=
      List.mem_filterMap.mpr ⟨_, List.getLast_mem left, origin⟩
    have status := status_failed failure entries
    cases origins : entries.filterMap BatchEntry.origin with
    | nil =>
      rw [origins] at carried
      nomatch carried
    | cons first rest =>
      rw [origins] at status
      exact ⟨0, .inr ⟨failure, rest.length, kind, rfl, status⟩⟩

/-- What a frame completed is told before the rest. -/
theorem Told.after (same : frame.take data.length = entries.take data.length)
    (later : Told (entries.drop data.length) responses ending) :
    Told entries (completed frame data ++ responses) ending where
  index := by
    rw [List.map_append, index_completed, later.index, same, ← List.filterMap_append,
      List.take_append_drop]
  status := by
    have first : (completed frame data).map AccessResponse.status =
        List.replicate (completed frame data).length .ok := by
      rw [List.eq_replicate_iff, List.length_map]
      simp only [List.mem_map, true_and]
      rintro _ ⟨response, member, rfl⟩
      exact status_completed member
    rw [List.map_append, first]
    obtain ⟨done, ⟨complete, rest⟩ | ⟨failure, dropped, kind, failed, rest⟩⟩ := later.status
    · rw [rest, List.replicate_append_replicate]
      exact ⟨_, .inl ⟨complete, rfl⟩⟩
    · rw [rest, ← List.append_assoc, List.replicate_append_replicate]
      exact ⟨_, .inr ⟨failure, dropped, kind, failed, rfl⟩⟩

/-- The outcome that is told is the first failure. -/
theorem Told.eq_failure (told : Told entries responses ending) : ending = failure? responses := by
  have first (done : Nat) :
      (List.replicate done AccessStatus.ok).findSome? AccessStatus.failure? = none := by
    simp [List.findSome?_eq_none_iff, AccessStatus.failure?]
  have statuses : failure? responses =
      (responses.map AccessResponse.status).findSome? AccessStatus.failure? := by
    rw [List.findSome?_map]
    rfl
  rw [statuses]
  obtain ⟨done, ⟨rfl, rest⟩ | ⟨failure, dropped, kind, rfl, rest⟩⟩ := told.status
  · rw [rest, first]
  · rw [rest, List.findSome?_append, first]
    rcases kind with rfl | rfl | rfl <;> rfl

/-- No response tells of an unexpected answer. -/
theorem Told.ne_unexpectedAnswer (told : Told entries responses ending) {command : Command} :
    ending ≠ some (.unexpectedAnswer command) := by
  obtain ⟨done, ⟨rfl, -⟩ | ⟨failure, dropped, kind, rfl, -⟩⟩ := told.status
  · nofun
  · rcases kind with rfl | rfl | rfl <;> nofun

end Batch

namespace Link

/-- Exchanges lead from link to link; nothing was queued, and the debug port is at the same
position. -/
structure Led (link : Link σ) (turns : List Turn) (next : Link σ) : Prop where
  conversation : Conversation link.transport (turns.map .turn) next.transport
  batch : next.batch = link.batch
  dapIndex : next.state.dapIndex = link.state.dapIndex

section Led

variable {link middle next : Link σ} {turn : Turn} {turns later : List Turn} {transport : σ}

theorem led_nil (link : Link σ) : link.Led [] link := ⟨.nil _, rfl, rfl⟩

/-- A change of what is known of the target, other than its position, is no exchange. -/
theorem Led.restate (led : link.Led turns next) {state : LinkState}
    (same : state.dapIndex = next.state.dapIndex) : link.Led turns { next with state } :=
  ⟨led.conversation, led.batch, same.trans led.dapIndex⟩

theorem Led.forget (led : link.Led turns next) : link.Led turns next.forgetSelect :=
  led.restate rfl

theorem Led.append (first : link.Led turns middle) (second : middle.Led later next) :
    link.Led (turns ++ later) next where
  conversation := by
    rw [List.map_append]
    exact first.conversation.append second.conversation
  batch := second.batch.trans first.batch
  dapIndex := second.dapIndex.trans first.dapIndex

/-- A single exchange leads to a link with the transport it leaves. -/
theorem led_turn (conversation : Conversation link.transport [.turn turn] transport) :
    link.Led [turn] { link with transport } := ⟨conversation, rfl, rfl⟩

end Led

/-- The entries of a frame: all that are left, or only the one that has to wait. -/
def frameOf (entries : List BatchEntry) (waits : Nat) : List BatchEntry :=
  if 0 < waits then entries.take 1 else entries

theorem frameOf_cons (entry : BatchEntry) (rest : List BatchEntry) (waits : Nat) :
    frameOf (entry :: rest) waits = nextFrame entry rest waits := rfl

private theorem length_frameOf_pos {entries : List BatchEntry} (waits : Nat)
    (some : 0 < entries.length) : 0 < (frameOf entries waits).length := by
  unfold frameOf
  split
  · rw [List.length_take]
    omega
  · exact some

private theorem length_frameOf_le (entries : List BatchEntry) (waits : Nat) :
    (frameOf entries waits).length ≤ entries.length := by
  unfold frameOf
  split
  · exact List.length_take_le' _ _
  · exact Nat.le_refl _

theorem waitLimit_pos (config : TransferConfig) : 0 < waitLimit config :=
  Nat.lt_of_lt_of_le Nat.zero_lt_one (Nat.le_max_right _ _)

/-- The loop that sends a batch. -/
def batchLoop (config : TransferConfig) (dapIndex : UInt8) (entries : List BatchEntry) :
    RetryLoop where
  size := entries.length
  limit := waitLimit config
  command := .transfer
  request position waits := .transfer (.ofEntries dapIndex (frameOf (entries.drop position) waits))
  trusting := false
  aside turns ending := turns = [] ∧ ending = none
  limit_pos := waitLimit_pos config
  command_eq _ _ := rfl
  asks_pos {position} waits left := by
    show 0 < ((frameOf (entries.drop position) waits).map _).length
    rw [List.length_map]
    apply length_frameOf_pos
    rw [List.length_drop]
    omega
  asks_le {position} waits left := by
    show position + ((frameOf (entries.drop position) waits).map _).length ≤ entries.length
    have short := length_frameOf_le (entries.drop position) waits
    rw [List.length_drop] at short
    rw [List.length_map]
    omega
  aside_apart {turns ending} := by
    rintro ⟨rfl, rfl⟩
    exact Turn.apart_nil nofun nofun

/-- Sending some entries follows the loop of the batch that they are the rest of. -/
def FollowsBatch (config : TransferConfig) (all : List BatchEntry) (position waits : Nat)
    (link : Link σ) (turns : List Turn) (ending : Option AccessError) (next : Link σ) : Prop :=
  link.Led turns next ∧
    (batchLoop config link.state.dapIndex all).Course position waits turns ending

section Batch

variable {all rest frame : List BatchEntry} {entry : BatchEntry}
  {position waits : Nat} {link middle next : Link σ} {turn : Turn}

/-- A position at which something is left is inside. -/
private theorem lt_of_drop (here : all.drop position = entry :: rest) : position < all.length := by
  have length := congrArg List.length here
  rw [List.length_drop, List.length_cons] at length
  omega

omit [Transport σ] in
/-- The frame of a batch is the one that its loop asks for. -/
private theorem asks_frame (config : TransferConfig) (here : all.drop position = entry :: rest)
    (isFrame : frame = nextFrame entry rest waits)
    (request : turn.request = .transfer (.ofEntries link.state.dapIndex frame)) :
    turn.request = (batchLoop config link.state.dapIndex all).request position waits := by
  rw [request, isFrame, ← frameOf_cons, ← here]
  rfl

/-- What is left of a batch ends as the batch does. -/
private theorem last_drop (count : Nat)
    (ends : ∀ entry ∈ all.getLast?, entry.origin.isSome = true) :
    ∀ entry ∈ (all.drop count).getLast?, entry.origin.isSome = true := by
  rw [List.getLast?_drop]
  split
  · nofun
  · exact ends

omit [Transport σ] in
/-- The first entries of a frame are the first ones that are left. -/
private theorem take_frame (isFrame : frame = nextFrame entry rest waits) {count : Nat}
    (le : count ≤ frame.length) : frame.take count = (entry :: rest).take count := by
  subst isFrame
  exact take_nextFrame le

/-- A frame that stops at an access adds one WAIT to those of the access, which is the first one if
others completed before it. -/
private theorem blockWaits_frame (isFrame : frame = nextFrame entry rest waits) {count : Nat}
    (less : count < frame.length) : blockWaits waits count = waits + 1 := by
  unfold blockWaits
  unfold nextFrame at isFrame
  by_cases waiting : 0 < waits
  · rw [if_pos waiting] at isFrame
    rw [isFrame, List.length_singleton] at less
    rw [if_neg (by omega)]
  · have first : waits = 0 := by omega
    rw [first]
    split <;> rfl

end Batch

/-- A frame of a batch was answered, which left a link. -/
structure AnswersFrame (link : Link σ) (frame : List BatchEntry) (turn : Turn)
    (reply : TransferReply) (middle : Link σ) : Prop where
  request : turn.request = .transfer (.ofEntries link.state.dapIndex frame)
  report : turn.report? = some ⟨frame.length, reply.count, reply.status⟩
  counted : reply.data.length = reply.count
  within : reply.count ≤ frame.length
  led : link.Led [turn] middle

/-- Sending entries is sending a frame, and then what the answer calls for: the entries that are
left, the failure of the entry that the frame stopped at, or giving up on the batch. -/
theorem yields_sendEntries_cons {limit waits : Nat} {entry : BatchEntry} {rest : List BatchEntry}
    {frame : List BatchEntry} {link : Link σ} {post : List AccessResponse → Link σ → Prop}
    {broken : AccessError → Link σ → Prop} (isFrame : frame = nextFrame entry rest waits)
    (whole : ∀ {turn reply middle}, AnswersFrame link frame turn reply middle →
      reply.status.isOk = true → reply.count = frame.length →
      (sendEntries limit ((entry :: rest).drop reply.count) 0).Yields middle
        (fun responses ↦ post (Batch.completed frame reply.data ++ responses)) broken)
    (again : ∀ {turn reply middle}, AnswersFrame link frame turn reply middle →
      reply.status.IsWait → reply.count < frame.length → waits + 1 < limit →
      (sendEntries limit ((entry :: rest).drop reply.count) (waits + 1)).Yields middle
        (fun responses ↦ post (Batch.completed frame reply.data ++ responses)) broken)
    (exhausted : ∀ {turn reply middle}, AnswersFrame link frame turn reply middle →
      reply.status.IsWait → reply.count < frame.length → limit ≤ waits + 1 →
      post (Batch.completed frame reply.data ++
        Batch.failed .retryExhausted ((entry :: rest).drop reply.count)) middle)
    (ended : ∀ {turn reply middle}, AnswersFrame link frame turn reply middle →
      reply.status.isOk = false → ¬reply.status.IsWait → reply.count < frame.length →
      ∀ {failure : AccessStatus}, failure = .fault ∨ failure = .noResponse →
        post (Batch.completed frame reply.data ++
          Batch.failed failure ((entry :: rest).drop reply.count)) middle)
    (miscounted : ∀ {turn reply middle}, AnswersFrame link frame turn reply middle →
      reply.status.isOk = true → reply.count ≠ frame.length →
      broken (.unexpectedAnswer .transfer) middle)
    (contradicted : ∀ {turn reply middle}, AnswersFrame link frame turn reply middle →
      reply.status.isOk = false → reply.count = frame.length →
      broken (.unexpectedAnswer .transfer) middle)
    (lost : ∀ {turn cause next},
      turn.request = .transfer (.ofEntries link.state.dapIndex frame) → turn.report? = none →
      link.Led [turn] next → broken (.command (.exchange .transfer cause)) next) :
    (sendEntries limit (entry :: rest) waits).Yields link post broken := by
  rw [sendEntries]
  rw [nextFrame] at isFrame
  simp only [← isFrame, Action.yields_bind, Action.yields_get, yields_command]
  have asked : (Request.transfer (.ofEntries link.state.dapIndex frame)).accessCount =
      frame.length := List.length_map _
  refine (Probe.yields_transfer_report _ _).imp ?_ ?_
  · rintro reply transport ⟨⟨counted, within⟩, turn, request, report, conversation⟩
    have answers : AnswersFrame link frame turn reply
        (link.afterEntries transport (frame.take reply.data.length)) :=
      ⟨request, asked ▸ report, counted, Nat.le_trans within (Nat.le_of_eq asked),
        (led_turn conversation).restate rfl⟩
    rw [yields_modifyState]
    show Action.Yields _ (link.afterEntries transport (frame.take reply.data.length)) _ _
    rw [Action.yields_ite]
    constructor
    · intro ok
      rw [Action.yields_ite]
      constructor
      · intro complete
        rw [Action.yields_bind]
        exact whole answers ok complete
      · intro part
        exact miscounted answers ok part
    · intro notOk
      have notOk := Bool.eq_false_iff.mpr notOk
      rw [Action.yields_ite]
      constructor
      · intro full
        exact contradicted answers notOk (Nat.le_antisymm answers.within full)
      · intro notFull
        have less : reply.count < frame.length := Nat.lt_of_not_le notFull
        rw [Action.yields_bind, yields_noteFailure]
        rcases classify_cases reply.status
          (link.afterEntries transport (frame.take reply.data.length)).state with
          ⟨wait, classified⟩ | ⟨failure, sticky, pending, classified, notWait, kind⟩
        · rw [classified]
          dsimp only
          rw [Action.yields_ite]
          constructor
          · intro many
            exact exhausted { answers with led := answers.led.forget } wait less many
          · intro more
            rw [Action.yields_bind]
            exact again answers wait less (Nat.lt_of_not_le more)
        · rw [classified]
          dsimp only
          rw [Action.yields_bind, Action.yields_update, Action.yields_pure]
          exact ended { answers with led := (answers.led.restate (by rfl)).forget } notOk notWait
            less kind
  · rintro _ transport ⟨turn, cause, request, silent, rfl, conversation⟩
    exact lost request silent (led_turn conversation)

namespace AnswersFrame

variable {config : TransferConfig} {all rest frame : List BatchEntry} {entry : BatchEntry}
  {position waits : Nat} {link middle next : Link σ} {turn : Turn} {reply : TransferReply}
  {turns : List Turn} {ending : Option AccessError} {responses : List AccessResponse}

/-- A frame that ended the loop follows it. -/
theorem follows_ends (answers : AnswersFrame link frame turn reply middle)
    (here : all.drop position = entry :: rest) (isFrame : frame = nextFrame entry rest waits)
    {error : AccessError}
    (ends : (batchLoop config link.state.dapIndex all).Ends waits turn error) :
    FollowsBatch config all position waits link [turn] (some error) middle :=
  ⟨answers.led, .ends (lt_of_drop here) (asks_frame config here isFrame answers.request) ends⟩

/-- A frame that completed follows the loop with what comes after it. -/
theorem follows_whole (answers : AnswersFrame link frame turn reply middle)
    (here : all.drop position = entry :: rest) (isFrame : frame = nextFrame entry rest waits)
    (ok : reply.status.isOk = true) (complete : reply.count = frame.length)
    (follows : FollowsBatch config all (position + reply.count) 0 middle turns ending next) :
    FollowsBatch config all position waits link (turn :: turns) ending next := by
  obtain ⟨later, course⟩ := follows
  rw [answers.led.dapIndex] at course
  exact ⟨answers.led.append later, .completes (lt_of_drop here)
    (asks_frame config here isFrame answers.request) answers.report ⟨complete, ok⟩ course⟩

/-- A frame that stopped at an access that has to wait follows the loop with what comes after it. -/
theorem follows_wait (answers : AnswersFrame link frame turn reply middle)
    (here : all.drop position = entry :: rest) (isFrame : frame = nextFrame entry rest waits)
    (wait : reply.status.IsWait) (less : reply.count < frame.length)
    (fewer : waits + 1 < waitLimit config)
    (follows : FollowsBatch config all (position + reply.count) (waits + 1) middle turns ending
      next) :
    FollowsBatch config all position waits link (turn :: turns) ending next := by
  obtain ⟨later, course⟩ := follows
  rw [answers.led.dapIndex, ← blockWaits_frame isFrame less] at course
  rw [← blockWaits_frame isFrame less] at fewer
  exact ⟨answers.led.append later, .waits (lt_of_drop here)
    (asks_frame config here isFrame answers.request) answers.report wait (.inl less) fewer
    ⟨rfl, rfl⟩ course⟩

/-- What the frame completed is told before the rest. -/
theorem told (answers : AnswersFrame link frame turn reply middle)
    (isFrame : frame = nextFrame entry rest waits)
    (later : Batch.Told ((entry :: rest).drop reply.count) responses ending) :
    Batch.Told (entry :: rest) (Batch.completed frame reply.data ++ responses) ending := by
  have same := take_frame isFrame (Nat.le_trans (Nat.le_of_eq answers.counted) answers.within)
  rw [← answers.counted] at later
  exact later.after same

/-- The failure of the access that the frame stopped at is told. -/
theorem told_failed (answers : AnswersFrame link frame turn reply middle)
    (isFrame : frame = nextFrame entry rest waits)
    (ends : ∀ last ∈ (entry :: rest).getLast?, last.origin.isSome = true)
    (less : reply.count < frame.length) {failure : AccessStatus}
    (kind : failure = .fault ∨ failure = .noResponse ∨ failure = .retryExhausted) :
    Batch.Told (entry :: rest) (Batch.completed frame reply.data ++
      Batch.failed failure ((entry :: rest).drop reply.count)) (some (.ofStatus failure)) := by
  have short := (nextFrame_sublist entry rest waits).length_le
  rw [← isFrame] at short
  have remaining : (entry :: rest).drop reply.count ≠ [] := by
    apply List.ne_nil_of_length_pos
    rw [List.length_drop]
    omega
  exact answers.told isFrame (Batch.told_failed kind remaining (last_drop reply.count ends))

end AnswersFrame

/-- Entries are sent along the course of the loop of their batch, and the responses tell how it
ended. -/
theorem yields_sendEntries_course (config : TransferConfig) {all : List BatchEntry}
    (ends : ∀ entry ∈ all.getLast?, entry.origin.isSome = true) (entries : List BatchEntry)
    (waits : Nat) : ∀ {position : Nat} {link : Link σ}, all.drop position = entries →
      waits < waitLimit config →
      (sendEntries (waitLimit config) entries waits).Yields link
        (fun responses next ↦ ∃ turns ending,
          FollowsBatch config all position waits link turns ending next ∧
            Batch.Told entries responses ending)
        (fun error next ↦ error.isBroken = true ∧ ∃ turns,
          FollowsBatch config all position waits link turns (some error) next) := by
  induction entries, waits using @sendEntries_induction (waitLimit config) with
  | nil waits =>
    intro position link done few
    rw [sendEntries, Action.yields_pure]
    exact ⟨[], none, ⟨led_nil link, .all waits (List.drop_eq_nil_iff.mp done)⟩, Batch.told_nil⟩
  | cons entry rest waits progressing again =>
    intro position link here few
    obtain ⟨frame, isFrame⟩ : ∃ frame, frame = nextFrame entry rest waits := ⟨_, rfl⟩
    have nonempty := length_nextFrame_pos entry rest waits
    rw [← isFrame] at nonempty
    have further (count : Nat) : all.drop (position + count) = (entry :: rest).drop count := by
      rw [← here, List.drop_drop]
    have endsHere := last_drop position ends
    rw [here] at endsHere
    apply yields_sendEntries_cons isFrame
    case whole =>
      intro turn reply middle answers ok complete
      have shorter : ((entry :: rest).drop reply.count).length < (entry :: rest).length := by
        rw [List.length_drop, List.length_cons]
        omega
      refine (progressing _ shorter (further _) (waitLimit_pos config)).imp ?_ ?_
      · rintro responses next ⟨turns, ending, follows, rest⟩
        exact ⟨turn :: turns, ending, answers.follows_whole here isFrame ok complete follows,
          answers.told isFrame rest⟩
      · rintro error next ⟨isBroken, turns, follows⟩
        exact ⟨isBroken, turn :: turns, answers.follows_whole here isFrame ok complete follows⟩
    case again =>
      intro turn reply middle answers wait less fewer
      have shorter : ((entry :: rest).drop reply.count).length ≤ (entry :: rest).length := by
        rw [List.length_drop]
        omega
      refine (again _ shorter fewer (further _) fewer).imp ?_ ?_
      · rintro responses next ⟨turns, ending, follows, rest⟩
        exact ⟨turn :: turns, ending, answers.follows_wait here isFrame wait less fewer follows,
          answers.told isFrame rest⟩
      · rintro error next ⟨isBroken, turns, follows⟩
        exact ⟨isBroken, turn :: turns,
          answers.follows_wait here isFrame wait less fewer follows⟩
    case exhausted =>
      intro turn reply middle answers wait less many
      rw [← blockWaits_frame isFrame less] at many
      exact ⟨[turn], some .retryExhausted,
        answers.follows_ends here isFrame (.exhausted answers.report wait (.inl less) many),
        answers.told_failed isFrame endsHere less (.inr (.inr rfl))⟩
    case ended =>
      intro turn reply middle answers notOk notWait less failure kind
      exact ⟨[turn], some (.ofStatus failure),
        answers.follows_ends here isFrame (.failed answers.report notOk notWait (.inl less) kind),
        answers.told_failed isFrame endsHere less (kind.imp_right .inl)⟩
    case miscounted =>
      intro turn reply middle answers ok part
      exact ⟨rfl, [turn],
        answers.follows_ends here isFrame (.miscounted answers.report ok part)⟩
    case contradicted =>
      intro turn reply middle answers notOk full
      exact ⟨rfl, [turn],
        answers.follows_ends here isFrame (.contradicted answers.report ⟨full, notOk⟩ rfl)⟩
    case lost =>
      intro turn cause next request silent led
      exact ⟨rfl, [turn], led, .ends (lt_of_drop here) (asks_frame config here isFrame request)
        (.lost silent cause)⟩

/-- A flush follows the loop of its batch, or is refused. -/
theorem yields_flush_course (config : TransferConfig) {link : Link σ}
    (ends : ∀ entry ∈ link.batch.entries.getLast?, entry.origin.isSome = true) :
    (flush config).Yields link
      (fun responses next ↦ ∃ turns ending,
        FollowsBatch config link.batch.entries 0 0 link.discard turns ending next ∧
          Batch.Told link.batch.entries responses ending)
      (fun error next ↦
        (error = .notConnected ∨ error = .stickyErrorPending) ∧ next = link.discard ∨
        error.isBroken = true ∧ ∃ turns,
          FollowsBatch config link.batch.entries 0 0 link.discard turns (some error) next) := by
  unfold flush
  simp only [Action.yields_bind, Action.yields_get, Action.yields_update]
  rw [yields_checkReady]
  refine ⟨fun _ ↦ .inl ⟨.inl rfl, rfl⟩, fun _ _ ↦ .inl ⟨.inr rfl, rfl⟩, fun _ _ ↦ ?_⟩
  rw [Action.yields_ite]
  constructor
  · intro empty
    rw [List.isEmpty_iff.mp empty]
    exact ⟨[], none, ⟨led_nil _, .all 0 (Nat.le_refl 0)⟩, Batch.told_nil⟩
  · intro _
    rw [Action.yields_onError]
    refine (yields_sendEntries_course config ends _ 0 List.drop_zero (waitLimit_pos config)).imp
      (fun _ _ sent ↦ sent) ?_
    rintro error next ⟨isBroken, turns, led, course⟩
    exact .inr ⟨isBroken, turns, led.forget, course⟩

end Link

end DebugProbe
