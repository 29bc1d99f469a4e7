import DebugProbe.Proofs.Link.Flush
import DebugProbe.Proofs.Link.Marks
import DebugProbe.Proofs.Link.Queue

/-!
# Sending from a quiet link

A batch that is sent from a quiet link exchanges frames that carry parts of it, and nothing else.
Either all accesses completed, the last one in the last frame, and the link is still quiet; or the
last frame failed, and what its status says is noted.
-/

namespace DebugProbe

namespace Probe

variable {σ : Type} [Transport σ]

/-- A transfer command that is answered has an item of data for each access that completed. -/
theorem yields_transfer (request : TransferRequest) (state : σ) :
    (transfer request).Yields state
      (fun reply next ↦
        (reply.data.length = reply.count ∧ reply.count ≤ request.transfers.length) ∧
          ∃ written, Turn.Leads ⟨.transfer request, written, .ok reply⟩ state next)
      (fun _ next ↦ ∃ written cause,
        Turn.Leads ⟨.transfer request, written, .error cause⟩ state next) := by
  have counted : (transfer request).Yields state
      (fun reply _ ↦ reply.data.length = reply.count ∧ reply.count ≤ request.transfers.length)
      (fun _ _ ↦ True) :=
    (yields_parsed rfl state).imp
      (fun _ _ ⟨_, parsed⟩ ↦ Frame.length_of_parse_transfer parsed) fun _ _ _ ↦ trivial
  exact (counted.and (yields_request (.transfer request) state)).imp (fun _ _ both ↦ both)
    fun _ _ ⟨_, _, failed⟩ ↦ failed

end Probe

/-- The last response to entries that all completed tells what the last one of them gave. -/
theorem Batch.getLast?_completed {entries : List BatchEntry} {data : List (Option UInt32)}
    (all : data.length = entries.length) {entry : BatchEntry} {index : Nat}
    (last : entries.getLast? = some entry) (origin : entry.origin = some index) :
    (completed entries data).getLast? = data.getLast?.map fun word ↦ ⟨index, .ok, word⟩ := by
  obtain ⟨front, rfl⟩ := List.getLast?_eq_some_iff.mp last
  rcases List.eq_nil_or_concat data with rfl | ⟨early, word, rfl⟩
  · simp at all
  · rw [List.concat_eq_append] at all ⊢
    have same : early.length = front.length := by simpa using all
    rw [completed_append (by simp [same]), same, List.drop_left, completed_cons, origin]
    simp

namespace Link

variable {σ : Type} [Transport σ]

/-- The request puts some of the entries to the target. -/
def Sends (dapIndex : UInt8) (entries : List BatchEntry) (request : Request) : Prop :=
  ∃ part, part ≠ [] ∧ part.Sublist entries ∧ request = .transfer (.ofEntries dapIndex part)

theorem Sends.isAccess {dapIndex : UInt8} {entries : List BatchEntry} {request : Request}
    (sends : Sends dapIndex entries request) : request.isAccess = true := by
  obtain ⟨part, -, -, rfl⟩ := sends
  rfl

theorem Sends.sublist {dapIndex : UInt8} {entries all : List BatchEntry} {request : Request}
    (sends : Sends dapIndex entries request) (sublist : entries.Sublist all) :
    Sends dapIndex all request := by
  obtain ⟨part, some, among, rfl⟩ := sends
  exact ⟨part, some, among.trans sublist, rfl⟩

/-- The last entry was carried out in the last exchange, and gave what the last response tells. -/
def Completed (entries : List BatchEntry) (turns : List Turn) (responses : List AccessResponse) :
    Prop :=
  ∃ entry turn response, entries.getLast? = some entry ∧ turns.getLast? = some turn ∧
    responses.getLast? = some response ∧ turn.Carried entry.transfer response.value

/-- Entries were sent. They all completed and the link is still quiet, or one of them failed. -/
structure SentOff (entries : List BatchEntry) (link : Link σ) (responses : List AccessResponse)
    (turns : List Turn) (next : Link σ) : Prop where
  went : link.Went (Sends link.state.dapIndex entries) turns next
  some : entries ≠ [] → turns ≠ []
  indices : responses.map (·.index) = entries.filterMap (·.origin)
  settled : next.Quiet ∧ (entries ≠ [] → Completed entries turns responses) ∨
    ∃ response ∈ responses, response.status ≠ .ok

section Sending

variable {link next : Link σ} {entry : BatchEntry} {rest : List BatchEntry} {waits : Nat}
  {reply : TransferReply} {transport : σ} {turn : Turn}

omit [Transport σ] in
/-- The frame of a batch puts its first entries to the target. -/
private theorem sends_frame {frame : List BatchEntry} (dapIndex : UInt8)
    (isFrame : frame = nextFrame entry rest waits) :
    Sends dapIndex (entry :: rest) (.transfer (.ofEntries dapIndex frame)) := by
  subst isFrame
  exact ⟨_, List.ne_nil_of_length_pos (length_nextFrame_pos entry rest waits),
    nextFrame_sublist entry rest waits, rfl⟩

/-- The frame of a batch as an exchange that was answered. -/
private theorem went_frame {frame : List BatchEntry} {written : Bool}
    (isFrame : frame = nextFrame entry rest waits)
    (leads : Turn.Leads
      ⟨.transfer (.ofEntries link.state.dapIndex frame), written, .ok reply⟩
      link.transport transport) (completed : List BatchEntry) :
    link.Went (Sends link.state.dapIndex (entry :: rest))
      [⟨.transfer (.ofEntries link.state.dapIndex frame), written, .ok reply⟩]
      (link.afterEntries transport completed) where
  conversation := .turn leads (.nil transport)
  requests := List.forall_mem_singleton.mpr (sends_frame _ isFrame)
  batch := rfl
  state := .calm _

/-- Responses for what a frame completed and for what is left answer every access. -/
private theorem indices_frame {frame : List BatchEntry}
    (isFrame : frame = nextFrame entry rest waits) (length : reply.data.length = reply.count)
    (le : reply.count ≤ frame.length) {later : List AccessResponse}
    (indices : later.map (·.index) =
      ((entry :: rest).drop reply.count).filterMap (·.origin)) :
    (Batch.completed frame reply.data ++ later).map (·.index) =
      (entry :: rest).filterMap (·.origin) := by
  subst isFrame
  have first := Batch.index_completed (nextFrame entry rest waits) reply.data
  rw [length, take_nextFrame le] at first
  rw [List.map_append, first, indices, ← List.filterMap_append, List.take_append_drop]

/-- What is left of a batch ends as the batch does. -/
private theorem ends_drop {entries : List BatchEntry} (count : Nat)
    (ends : ∀ entry ∈ entries.getLast?, entry.origin.isSome = true) :
    ∀ entry ∈ (entries.drop count).getLast?, entry.origin.isSome = true := by
  rw [List.getLast?_drop]
  split
  · nofun
  · exact ends

/-- Where entries are left, not all of them are answered OK after a failure. -/
private theorem exists_failed {failure : AccessStatus} (bad : failure ≠ .ok)
    {entries : List BatchEntry} (some : entries ≠ [])
    (ends : ∀ entry ∈ entries.getLast?, entry.origin.isSome = true) :
    ∃ response ∈ Batch.failed failure entries, response.status ≠ .ok := by
  have last := List.getLast?_eq_some_getLast some
  obtain ⟨index, origin⟩ := Option.isSome_iff_exists.mp (ends _ last)
  have answered : index ∈ (Batch.failed failure entries).map AccessResponse.index := by
    rw [Batch.index_failed]
    exact List.mem_filterMap.mpr ⟨_, List.getLast_mem some, origin⟩
  obtain ⟨response, member, -⟩ := List.mem_map.mp answered
  exact ⟨response, member, Batch.status_failed_ne_ok bad member⟩

/-- The last access of the batch was carried out in the last frame. -/
private theorem completed_frame {frame : List BatchEntry} {dapIndex : UInt8} {written : Bool}
    (isFrame : frame = nextFrame entry rest waits) (length : reply.data.length = reply.count)
    (ok : reply.status.isOk = true) (all : reply.count = frame.length)
    (none : (entry :: rest).drop reply.count = [])
    (ends : ∀ last ∈ (entry :: rest).getLast?, last.origin.isSome = true) :
    Completed (entry :: rest)
      [⟨.transfer (.ofEntries dapIndex frame), written, .ok reply⟩]
      (Batch.completed frame reply.data) := by
  have whole : frame = entry :: rest := by
    have taken := take_nextFrame (Nat.le_refl (nextFrame entry rest waits).length)
    rw [← isFrame, List.take_length, ← all] at taken
    rw [taken, ← List.append_nil ((entry :: rest).take reply.count), ← none,
      List.take_append_drop]
  rw [whole] at all ⊢
  have last := List.getLast?_eq_some_getLast (List.cons_ne_nil entry rest)
  obtain ⟨index, origin⟩ := Option.isSome_iff_exists.mp (ends _ last)
  obtain ⟨word, given⟩ : ∃ word, reply.data.getLast? = some word := by
    have some : reply.data ≠ [] := by
      intro empty
      rw [all, empty] at length
      nomatch length
    exact ⟨_, List.getLast?_eq_some_getLast some⟩
  refine ⟨_, _, ⟨index, .ok, word⟩, last, rfl, ?_, _, _, reply, rfl, ok, ?_, ?_, given⟩
  · rw [Batch.getLast?_completed (length.trans all) last origin, given]
    rfl
  · rw [all]
    exact (List.length_map _).symm
  · show ((entry :: rest).map (·.transfer)).getLast? = _
    rw [List.getLast?_map, last]
    rfl

/-- A frame after which nothing is left completes the batch. -/
private theorem SentOff.last {frame : List BatchEntry} {written : Bool}
    (isFrame : frame = nextFrame entry rest waits) (length : reply.data.length = reply.count)
    (ok : reply.status.isOk = true) (all : reply.count = frame.length)
    (leads : Turn.Leads
      ⟨.transfer (.ofEntries link.state.dapIndex frame), written, .ok reply⟩
      link.transport transport)
    (still : (link.afterEntries transport (frame.take reply.data.length)).Quiet)
    (none : (entry :: rest).drop reply.count = [])
    (ends : ∀ last ∈ (entry :: rest).getLast?, last.origin.isSome = true) :
    SentOff (entry :: rest) link (Batch.completed frame reply.data)
      [⟨.transfer (.ofEntries link.state.dapIndex frame), written, .ok reply⟩]
      (link.afterEntries transport (frame.take reply.data.length)) where
  went := went_frame isFrame leads _
  some := fun _ ↦ List.cons_ne_nil _ _
  indices := by
    have past : ([] : List AccessResponse).map (·.index) =
        ((entry :: rest).drop reply.count).filterMap (·.origin) := by
      rw [none]
      rfl
    rw [← List.append_nil (Batch.completed frame reply.data)]
    exact indices_frame isFrame length (Nat.le_of_eq all) past
  settled := .inl ⟨still, fun _ ↦ completed_frame isFrame length ok all none ends⟩

/-- What is sent after a frame completes the batch if it completes what is left of it. -/
private theorem SentOff.after {frame : List BatchEntry} {written : Bool}
    (isFrame : frame = nextFrame entry rest waits) (length : reply.data.length = reply.count)
    (le : reply.count ≤ frame.length)
    (leads : Turn.Leads
      ⟨.transfer (.ofEntries link.state.dapIndex frame), written, .ok reply⟩
      link.transport transport)
    (still : (link.afterEntries transport (frame.take reply.data.length)).Quiet)
    (some : (entry :: rest).drop reply.count ≠ [])
    {responses : List AccessResponse} {turns : List Turn}
    (sent : SentOff ((entry :: rest).drop reply.count)
      (link.afterEntries transport (frame.take reply.data.length)) responses turns next) :
    SentOff (entry :: rest) link (Batch.completed frame reply.data ++ responses)
      (⟨.transfer (.ofEntries link.state.dapIndex frame), written, .ok reply⟩ :: turns) next where
  went := (went_frame isFrame leads _).append still
    (sent.went.mono fun _ sends ↦ sends.sublist (List.drop_sublist _ _))
  some := fun _ ↦ List.cons_ne_nil _ _
  indices := indices_frame isFrame length le sent.indices
  settled := by
    rcases sent.settled with ⟨quiet, completed⟩ | ⟨response, member, bad⟩
    · left
      refine ⟨quiet, fun _ ↦ ?_⟩
      obtain ⟨last, turn, response, isLast, isTurn, answers, carried⟩ := completed some
      refine ⟨last, turn, response, ?_, ?_, ?_, carried⟩
      · rw [List.getLast?_drop] at isLast
        split at isLast
        · nomatch isLast
        · exact isLast
      · rw [← List.singleton_append, List.getLast?_append, isTurn]
        rfl
      · rw [List.getLast?_append, answers]
        rfl
    · exact .inr ⟨response, List.mem_append_right _ member, bad⟩

/-- A frame that fails ends the batch, and its status is noted. -/
private theorem SentOff.failed {frame : List BatchEntry} {written : Bool}
    (isFrame : frame = nextFrame entry rest waits) (length : reply.data.length = reply.count)
    (less : reply.count < frame.length)
    (leads : Turn.Leads
      ⟨.transfer (.ofEntries link.state.dapIndex frame), written, .ok reply⟩
      link.transport transport)
    (ends : ∀ last ∈ (entry :: rest).getLast?, last.origin.isSome = true)
    {failure : AccessStatus} (bad : failure ≠ .ok) {noted : LinkState}
    (marked : link.state.Marked
      [⟨.transfer (.ofEntries link.state.dapIndex frame), written, .ok reply⟩] noted) :
    SentOff (entry :: rest) link
      (Batch.completed frame reply.data ++
        Batch.failed failure ((entry :: rest).drop reply.count))
      [⟨.transfer (.ofEntries link.state.dapIndex frame), written, .ok reply⟩]
      { link with transport, state := noted } where
  went := { went_frame isFrame leads [] with state := marked }
  some := fun _ ↦ List.cons_ne_nil _ _
  indices := indices_frame isFrame length (Nat.le_of_lt less) (Batch.index_failed _ _)
  settled := by
    have few := (nextFrame_sublist entry rest waits).length_le
    rw [← isFrame] at few
    have left : (entry :: rest).drop reply.count ≠ [] := by
      apply List.ne_nil_of_length_pos
      rw [List.length_drop]
      omega
    obtain ⟨response, member, notOk⟩ := exists_failed bad left (ends_drop reply.count ends)
    exact .inr ⟨response, List.mem_append_right _ member, notOk⟩

/-- Entries were sent until an exchange broke. -/
def BrokeOff (entries : List BatchEntry) (link next : Link σ) : Prop :=
  ∃ turns, link.Went (Sends link.state.dapIndex entries) turns next ∧ (entries ≠ [] → turns ≠ [])

/-- An exchange that got no answer breaks the batch off. -/
private theorem brokeOff_of_lost {frame : List BatchEntry} {written : Bool} {cause : ExchangeError}
    (isFrame : frame = nextFrame entry rest waits)
    (leads : Turn.Leads
      ⟨.transfer (.ofEntries link.state.dapIndex frame), written, .error cause⟩
      link.transport transport) :
    BrokeOff (entry :: rest) link { link with transport } :=
  ⟨[_], ⟨.turn leads (.nil _), List.forall_mem_singleton.mpr (sends_frame _ isFrame), rfl,
    .calm link.state.selectCache⟩, fun _ ↦ List.cons_ne_nil _ _⟩

/-- What is left after a frame is sent as a batch of its own. -/
private theorem yields_left {frame : List BatchEntry} {written : Bool}
    (isFrame : frame = nextFrame entry rest waits) (length : reply.data.length = reply.count)
    (le : reply.count ≤ frame.length)
    (leads : Turn.Leads
      ⟨.transfer (.ofEntries link.state.dapIndex frame), written, .ok reply⟩
      link.transport transport)
    (still : (link.afterEntries transport (frame.take reply.data.length)).Quiet)
    (some : (entry :: rest).drop reply.count ≠ [])
    {action : Action (Link σ) AccessError (List AccessResponse)}
    (yields : action.Yields (link.afterEntries transport (frame.take reply.data.length))
      (fun responses next ↦ ∃ turns, SentOff ((entry :: rest).drop reply.count)
        (link.afterEntries transport (frame.take reply.data.length)) responses turns next)
      (fun _ ↦ BrokeOff ((entry :: rest).drop reply.count)
        (link.afterEntries transport (frame.take reply.data.length)))) :
    (do
      let more ← action
      return Batch.completed frame reply.data ++ more).Yields
      (link.afterEntries transport (frame.take reply.data.length))
      (fun responses next ↦ ∃ turns, SentOff (entry :: rest) link responses turns next)
      (fun _ ↦ BrokeOff (entry :: rest) link) := by
  rw [Action.yields_bind]
  refine yields.imp ?_ ?_
  · rintro responses next ⟨turns, sent⟩
    exact ⟨_, sent.after isFrame length le leads still some⟩
  · rintro _ next ⟨turns, more, -⟩
    refine ⟨_, (went_frame isFrame leads _).append still (more.mono fun _ sends ↦ ?_),
      fun _ ↦ List.cons_ne_nil _ _⟩
    exact sends.sublist (List.drop_sublist _ _)

/-- Entries are sent frame by frame, until all completed or one of them failed. -/
theorem yields_sendEntries (limit : Nat) (entries : List BatchEntry) (waits : Nat)
    {link : Link σ} (quiet : link.Quiet)
    (ends : ∀ entry ∈ entries.getLast?, entry.origin.isSome = true) :
    (sendEntries limit entries waits).Yields link
      (fun responses next ↦ ∃ turns, SentOff entries link responses turns next)
      (fun _ ↦ BrokeOff entries link) := by
  induction entries, waits using @sendEntries_induction limit generalizing link with
  | nil waits =>
    rw [sendEntries, Action.yields_pure]
    exact ⟨[], .nil _ link, absurd rfl, rfl, .inl ⟨quiet, absurd rfl⟩⟩
  | cons entry rest waits progressing again =>
    obtain ⟨frame, isFrame⟩ : ∃ frame, frame = nextFrame entry rest waits := ⟨_, rfl⟩
    have nonempty := length_nextFrame_pos entry rest waits
    have sublist := nextFrame_sublist entry rest waits
    rw [sendEntries]
    rw [← isFrame] at nonempty sublist
    rw [nextFrame] at isFrame
    simp only [← isFrame, Action.yields_bind, Action.yields_get, yields_command]
    rw [← nextFrame] at isFrame
    refine (Probe.yields_transfer _ _).imp ?_ ?_
    · rintro reply transport ⟨⟨length, le⟩, written, leads⟩
      have le : reply.count ≤ frame.length := by
        simpa only [TransferRequest.ofEntries, List.length_map] using le
      have went := went_frame isFrame leads (frame.take reply.data.length)
      have broke : BrokeOff (entry :: rest) link
          (link.afterEntries transport (frame.take reply.data.length)) :=
        ⟨_, went, fun _ ↦ List.cons_ne_nil _ _⟩
      have still : (link.afterEntries transport (frame.take reply.data.length)).Quiet :=
        ⟨quiet.batch, quiet.sticky, quiet.pending⟩
      have endsLeft := ends_drop reply.count ends
      rw [yields_modifyState]
      show Action.Yields _ (link.afterEntries transport (frame.take reply.data.length)) _ _
      rw [Action.yields_ite]
      constructor
      · intro ok
        rw [Action.yields_ite]
        refine ⟨fun all ↦ ?_, fun _ ↦ broke⟩
        by_cases none : (entry :: rest).drop reply.count = []
        · have sent := SentOff.last isFrame length ok all leads still none ends
          rw [none, sendEntries, Action.yields_bind, Action.yields_pure, Action.yields_pure,
            List.append_nil]
          exact ⟨_, sent⟩
        · refine yields_left isFrame length le leads still none (progressing _ ?_ still endsLeft)
          rw [List.length_drop, List.length_cons]
          omega
      · intro notOk
        rw [Action.yields_ite]
        refine ⟨fun _ ↦ broke, fun notAll ↦ ?_⟩
        have less : reply.count < frame.length := Nat.lt_of_not_le notAll
        rw [Action.yields_bind, yields_noteFailure]
        rcases classify_marked
          ⟨.transfer (.ofEntries link.state.dapIndex frame), written, .ok reply⟩
          (link.afterEntries transport (frame.take reply.data.length)).state [] rfl
          with wait | ⟨failure, noted, failed, bad, marked⟩
        · rw [wait]
          dsimp only
          rw [Action.yields_ite]
          constructor
          · intro _
            have exhausted : AccessStatus.retryExhausted ≠ .ok := nofun
            exact ⟨_, SentOff.failed isFrame length less leads ends exhausted (.calm none)⟩
          · intro more
            refine yields_left isFrame length le leads still ?_
              (again _ ?_ (Nat.lt_of_not_le more) still endsLeft)
            · have few := sublist.length_le
              apply List.ne_nil_of_length_pos
              rw [List.length_drop]
              omega
            · rw [List.length_drop]
              omega
        · rw [failed]
          exact ⟨_, SentOff.failed isFrame length less leads ends bad (marked.prepend rfl [])⟩
    · rintro _ transport ⟨written, cause, leads⟩
      exact brokeOff_of_lost isFrame leads

end Sending

variable {link : Link σ}

/-- A flush sends the batch, whose last entry is an access, or refuses to. -/
theorem yields_flush (config : TransferConfig) (sticky : link.state.stickyError = false)
    (pending : link.state.lineResetPending = false)
    (ends : ∀ entry ∈ link.batch.entries.getLast?, entry.origin.isSome = true) :
    (flush config).Yields link
      (fun responses next ↦ ∃ turns, SentOff link.batch.entries link.discard responses turns next)
      (fun _ next ↦ ∃ turns,
        link.discard.Went (Sends link.state.dapIndex link.batch.entries) turns next ∧
          (link.state.isActive = true → link.batch.entries ≠ [] → turns ≠ [])) := by
  have quiet : link.discard.Quiet := ⟨rfl, sticky, pending⟩
  unfold flush
  simp only [Action.yields_bind, Action.yields_get, Action.yields_update]
  rw [yields_checkReady]
  refine ⟨fun inactive ↦ ⟨[], .nil _ _, fun active ↦ ?_⟩, fun _ isSticky ↦ ?_, fun _ _ ↦ ?_⟩
  · exact absurd active (Bool.eq_false_iff.mp inactive)
  · exact absurd isSticky (Bool.eq_false_iff.mp sticky)
  · rw [Action.yields_ite]
    constructor
    · intro empty
      rw [List.isEmpty_iff.mp empty]
      exact ⟨[], .nil _ _, absurd rfl, rfl, .inl ⟨quiet, absurd rfl⟩⟩
    · intro _
      rw [Action.yields_onError]
      refine (yields_sendEntries _ _ 0 quiet ends).imp (fun _ _ sent ↦ sent) ?_
      rintro _ next ⟨turns, went, some⟩
      exact ⟨turns, went.forget, fun _ ↦ some⟩

omit [Transport σ] in
/-- A batch that was built on a quiet link is gone once it is flushed. -/
theorem Quiet.discard (quiet : link.Quiet) (batch : Batch) :
    ({ link with batch } : Link σ).discard = link := by
  show ({ link with batch := {} } : Link σ) = link
  rw [← quiet.batch]

/-- The entries for an access end with the access. -/
private theorem getLast?_entriesFor (held : Option Select) (access : RegisterAccess) (index : Nat) :
    (Batch.entriesFor held access index).getLast? = some (.ofAccess access index) := by
  rcases Batch.entriesFor_cases held access index with ⟨-, shape⟩ | ⟨select, -, shape⟩ <;>
    rw [shape] <;> rfl

private theorem origins_entriesFor (held : Option Select) (access : RegisterAccess) (index : Nat) :
    (Batch.entriesFor held access index).filterMap (·.origin) = [index] := by
  rcases Batch.entriesFor_cases held access index with ⟨-, shape⟩ | ⟨select, -, shape⟩ <;>
    rw [shape] <;> rfl

/-- A single access that was sent has a single response, and if that is OK then the access was
carried out in the last exchange. -/
private theorem response_of_sentOff {access : RegisterAccess} {held : Option Select} {next : Link σ}
    {responses : List AccessResponse} {turns : List Turn}
    (sent : SentOff (Batch.entriesFor held access 0) link responses turns next) :
    ∃ response, responses = [response] ∧ (response.status = .ok → next.Quiet ∧
      ∃ turn, turns.getLast? = some turn ∧ turn.Carried access.transfer response.value) := by
  have indices := sent.indices
  rw [origins_entriesFor] at indices
  obtain ⟨response, none, rfl, -, nil⟩ := List.map_eq_cons_iff.mp indices
  obtain rfl := List.map_eq_nil_iff.mp nil
  refine ⟨response, rfl, fun ok ↦ ?_⟩
  rcases sent.settled with ⟨still, completed⟩ | ⟨other, member, bad⟩
  · obtain ⟨entry, turn, answer, isLast, isTurn, answers, carried⟩ :=
      completed (Batch.entriesFor_ne_nil _ _ _)
    rw [getLast?_entriesFor] at isLast
    obtain rfl := Option.some.inj isLast
    obtain rfl := Option.some.inj answers
    exact ⟨still, turn, isTurn, carried⟩
  · rw [List.mem_singleton.mp member] at bad
    exact absurd ok bad

/-- A single access goes out by itself on a quiet link. It gives its value and leaves the link
quiet, or fails; nothing is sent only if the link is down or the access does not fit. -/
theorem yields_run (config : TransferConfig) (access : RegisterAccess) (quiet : link.Quiet) :
    (run config access).Yields link
      (fun value next ↦ ∃ turns,
        link.Went (Sends link.state.dapIndex
          (Batch.entriesFor link.state.selectCache access 0)) turns next ∧ next.Quiet ∧
        ∃ turn, turns.getLast? = some turn ∧ turn.Carried access.transfer value)
      (fun error next ↦ ∃ turns,
        link.Went (Sends link.state.dapIndex
          (Batch.entriesFor link.state.selectCache access 0)) turns next ∧
        (turns = [] → link.state.isActive = true → error = .batchFull ∧
          Batch.fits (Batch.entriesFor link.state.selectCache access 0)
            (Transport.packetSize link.transport) = false)) := by
  unfold run
  rw [Action.yields_bind, yields_checkNoneQueued_of quiet.batch, Action.yields_bind, yields_onProbe]
  unfold Probe.packetSize
  simp only [Action.yields_bind, Action.yields_get, Action.yields_pure]
  rw [yields_queue, yields_checkReady]
  refine ⟨fun inactive ↦ ⟨[], .nil _ _, fun _ active ↦ ?_⟩, fun _ isSticky ↦ ?_, fun active _ ↦ ?_⟩
  · exact absurd active (Bool.eq_false_iff.mp inactive)
  · exact absurd isSticky (Bool.eq_false_iff.mp quiet.sticky)
  have shape : link.batch.entries ++ Batch.entriesFor (link.batch.current link.state.selectCache)
      access link.batch.requests = Batch.entriesFor link.state.selectCache access 0 := by
    rw [quiet.batch]
    rfl
  split
  · next batch pushed =>
    obtain ⟨-, built⟩ := Batch.push?_eq_some_iff.mp pushed
    have entries : batch.entries = Batch.entriesFor link.state.selectCache access 0 := by
      rw [built]
      exact shape
    have last := getLast?_entriesFor link.state.selectCache access 0
    have ends : ∀ entry ∈ batch.entries.getLast?, entry.origin.isSome = true := by
      intro entry member
      rw [entries, last] at member
      rw [← Option.some.inj member]
      rfl
    have some : Batch.entriesFor link.state.selectCache access 0 ≠ [] :=
      Batch.entriesFor_ne_nil _ _ _
    have flushed := @yields_flush σ _ { link with batch } config quiet.sticky quiet.pending ends
    rw [quiet.discard batch] at flushed
    dsimp only at flushed
    rw [entries] at flushed
    refine flushed.imp ?_ ?_
    · rintro responses next ⟨turns, sent⟩
      obtain ⟨response, rfl, carried⟩ := response_of_sentOff sent
      dsimp only
      by_cases ok : response.status = .ok
      · rw [AccessResponse.result_of_ok ok, Action.yields_ofExcept]
        exact ⟨turns, sent.went, carried ok⟩
      · rw [AccessResponse.result_of_not_ok ok, Action.yields_ofExcept]
        exact ⟨turns, sent.went, fun none ↦ absurd none (sent.some some)⟩
    · rintro error next ⟨turns, went, sends⟩
      exact ⟨turns, went, fun none active ↦ absurd none (sends active some)⟩
  · next full =>
    refine ⟨[], .nil _ _, fun _ _ ↦ ⟨rfl, ?_⟩⟩
    by_contra fits
    rw [Bool.not_eq_false] at fits
    rw [Batch.push?_eq_some_iff.mpr ⟨by rw [shape]; exact fits, rfl⟩] at full
    exact Option.some_ne_none _ full

end Link

end DebugProbe
