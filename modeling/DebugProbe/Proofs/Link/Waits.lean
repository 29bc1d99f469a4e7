import DebugProbe.Proofs.Link.BlockLooping
import DebugProbe.Simulator.Probe
import DebugProbe.Transport.Recorded

/-!
# WAITs are counted for each access

A flush and a block transfer give up on an access exactly if it was answered WAIT as often in a row
as is borne. WAITs to different accesses do not add up, and an access that is carried out after
fewer WAITs is a success. So neither loop writes more frames than there are accesses times WAITs
that are borne, whatever the transport does.
-/

namespace DebugProbe

open Turn (GaveUp HasRow ofCommand waitMarks)

namespace RetryLoop.Course

variable {loop : RetryLoop} {turns : List Turn} {ending : Option AccessError}

/-- A loop writes no more frames than each of its accesses may take. -/
theorem length_le_size (course : loop.Course 0 0 turns ending) :
    (ofCommand loop.command turns).length ≤ loop.size * loop.limit := by
  by_cases left : 0 < loop.size
  · have le := course.length_le left loop.limit_pos
    rwa [Nat.add_zero, Nat.sub_zero] at le
  · rw [course.eq_nil_of_le (Nat.le_of_not_lt left)]
    exact Nat.zero_le _

/-- From the beginning on, a loop gives up exactly if one access got as many WAITs in a row as are
borne, and no access gets more. -/
theorem waits_iff (course : loop.Course 0 0 turns ending)
    (sound : loop.trusting = true →
      ∀ turn ∈ ofCommand loop.command turns, ∀ report ∈ turn.report?, report.status.IsWait →
        ¬report.Contradicts) :
    (HasRow loop.limit (waitMarks 0 (ofCommand loop.command turns)) ↔
        GaveUp loop.command turns ending) ∧
      ¬HasRow (loop.limit + 1) (waitMarks 0 (ofCommand loop.command turns)) := by
  have limit := course.hasRow_iff loop.limit_pos sound (Nat.le_refl _)
  have more := course.hasRow_iff loop.limit_pos sound (Nat.le_succ _)
  rw [List.replicate_zero, List.nil_append] at limit more
  constructor
  · simpa using limit
  · rw [more]
    omega

end RetryLoop.Course

namespace Batch

variable {entries : List BatchEntry} {responses : List AccessResponse}
  {ending : Option AccessError}

/-- All accesses are OK exactly if nothing failed. -/
theorem Told.ok_iff (told : Told entries responses ending) :
    (∀ response ∈ responses, response.status = .ok) ↔ ending = none := by
  have among {status : AccessStatus} (all : ∀ response ∈ responses, response.status = .ok)
      (member : status ∈ responses.map AccessResponse.status) : status = .ok := by
    obtain ⟨response, isResponse, rfl⟩ := List.mem_map.mp member
    exact all response isResponse
  obtain ⟨done, ⟨rfl, rest⟩ | ⟨failure, dropped, kind, rfl, rest⟩⟩ := told.status
  · refine ⟨fun _ ↦ rfl, fun _ response member ↦ ?_⟩
    have status := List.mem_map_of_mem (f := AccessResponse.status) member
    rw [rest] at status
    exact List.eq_of_mem_replicate status
  · rw [rest] at among
    constructor
    · intro all
      have ok : failure = .ok := among all (by simp)
      rcases kind with rfl | rfl | rfl <;> nomatch ok
    · nofun

/-- Some access is reported to have been answered WAIT too often exactly if this is the failure. -/
theorem Told.exhausted_iff (told : Told entries responses ending) :
    (∃ response ∈ responses, response.status = .retryExhausted) ↔
      ending = some .retryExhausted := by
  have among : (∃ response ∈ responses, response.status = .retryExhausted) ↔
      .retryExhausted ∈ responses.map AccessResponse.status := List.mem_map.symm
  rw [among]
  obtain ⟨done, ⟨rfl, rest⟩ | ⟨failure, dropped, kind, rfl, rest⟩⟩ := told.status
  · rw [rest]
    simp
  · rw [rest]
    rcases kind with rfl | rfl | rfl <;> simp [AccessError.ofStatus]

end Batch

namespace Link

/-- The frames of a flush. Each asks for the wire entries that are left, or for the first one of
them alone; together they are no more than all entries may take, and no entry gets more WAITs in a
row than are borne. -/
structure BatchWaits (config : TransferConfig) (dapIndex : UInt8) (entries : List BatchEntry)
    (turns : List Turn) : Prop where
  asks : (batchLoop config dapIndex entries).Asks 0 turns
  few : turns.length ≤ entries.length * waitLimit config
  rows : ¬HasRow (waitLimit config + 1) (waitMarks 0 turns)

/-- The frames of a block transfer. Each asks for the next words that are left, and together they
are no more than all words may take. As long as every WAIT leaves a word waiting, the loop gives up
exactly on a word that was answered WAIT as often in a row as is borne. -/
structure BlockWaits (config : TransferConfig) (dapIndex : UInt8) (register : RegisterAddress)
    (data : BlockData) (turns : List Turn) (ending : Option AccessError) : Prop where
  asks : ∃ packetSize, (blockLoop config dapIndex register packetSize data).Asks 0
    (ofCommand .transferBlock turns)
  few : (ofCommand .transferBlock turns).length ≤ data.size * waitLimit config
  rows : (∀ turn ∈ ofCommand .transferBlock turns, ∀ report ∈ turn.report?,
      report.status.IsWait → report.count < report.asked) →
    (GaveUp .transferBlock turns ending ↔
        HasRow (waitLimit config) (waitMarks 0 (ofCommand .transferBlock turns))) ∧
      ¬HasRow (waitLimit config + 1) (waitMarks 0 (ofCommand .transferBlock turns))

section Accounts

variable {config : TransferConfig} {dapIndex : UInt8} {entries : List BatchEntry}
  {register : RegisterAddress} {packetSize : Nat} {data : BlockData} {turns first later : List Turn}
  {ending : Option AccessError}

/-- The WAITs of a batch, as its loop counts them. -/
private theorem batchWaits_of_course
    (course : (batchLoop config dapIndex entries).Course 0 0 turns ending) :
    BatchWaits config dapIndex entries turns ∧
      (HasRow (waitLimit config) (waitMarks 0 turns) ↔ ending = some .retryExhausted) ∧
      (ending = none ↔ (∀ turn ∈ turns, turn.Completes ∨ turn.Waits) ∧
        ¬HasRow (waitLimit config) (waitMarks 0 turns)) := by
  have isCommand := course.isCommand fun _ _ still ↦ still.1
  have own : ofCommand (batchLoop config dapIndex entries).command turns = turns :=
    Turn.ofCommand_eq_self isCommand
  have asks := course.asks
  have few := course.length_le_size
  have rows := course.waits_iff nofun
  have complete := course.eq_none_iff (waitLimit_pos config) rfl fun _ _ still ↦ (nomatch still.2)
  rw [own] at asks few rows complete
  refine ⟨⟨asks, few, rows.2⟩, rows.1.trans ⟨fun gaveUp ↦ gaveUp.1, ?_⟩, complete⟩
  rintro rfl
  have last := List.getLast?_eq_some_getLast course.ne_nil_of_error
  exact ⟨rfl, _, last, isCommand _ (List.mem_of_getLast? last)⟩

/-- The WAITs of a block, as its loop counts them. -/
private theorem blockWaits_of_course (apart : Turn.Apart .transferBlock first none)
    (course : (blockLoop config dapIndex register packetSize data).Course 0 0 later ending) :
    BlockWaits config dapIndex register data (first ++ later) ending := by
  have own : ofCommand .transferBlock (first ++ later) = ofCommand .transferBlock later := by
    rw [Turn.ofCommand_append, apart.ofCommand_eq_nil, List.nil_append]
  have gaveUp :
      GaveUp .transferBlock (first ++ later) ending ↔ GaveUp .transferBlock later ending := by
    apply Turn.gaveUp_append
    cases ending with
    | none => exact .inr rfl
    | some error => exact .inl course.ne_nil_of_error
  constructor
  · rw [own]
    exact ⟨packetSize, course.asks⟩
  · rw [own]
    exact course.length_le_size
  · rw [own, gaveUp]
    intro plain
    obtain ⟨row, more⟩ := course.waits_iff fun _ turn member report answer wait contradicts ↦
      absurd contradicts.1 (Nat.ne_of_lt (plain turn member report answer wait))
    exact ⟨row.symm, more⟩

/-- Without a frame of the block no word had to wait. -/
private theorem blockWaits_of_apart (config : TransferConfig) (dapIndex : UInt8)
    (register : RegisterAddress) (data : BlockData)
    (apart : Turn.Apart .transferBlock turns ending) :
    BlockWaits config dapIndex register data turns ending := by
  have limit := waitLimit_pos config
  have own := apart.ofCommand_eq_nil
  constructor
  · rw [own]
    exact ⟨0, trivial⟩
  · rw [own]
    exact Nat.zero_le _
  · rw [own]
    have never : ¬GaveUp .transferBlock ([] ++ turns) ending := apart.not_gaveUp
    refine fun _ ↦ ⟨⟨fun gaveUp ↦ absurd gaveUp never, fun row ↦ ?_⟩, ?_⟩
    · exact absurd row (Turn.not_hasRow_nil limit)
    · exact Turn.not_hasRow_nil (Nat.zero_lt_succ _)

end Accounts

variable {σ : Type} [Transport σ]

/-- What a block transfer puts on the wire, with the account of its WAITs. -/
def CountsBlock (config : TransferConfig) (register : RegisterAddress) (data : BlockData)
    (link : Link (Recorded σ)) (ending : Option AccessError) (next : Link (Recorded σ)) : Prop :=
  ∃ turns, link.transport.Saw (turns.map .turn) next.transport ∧
    BlockWaits config link.state.dapIndex register data turns ending

private theorem block_counts (config : TransferConfig) (register : RegisterAddress)
    (data : BlockData) (resume : Option BlockResume) {link : Link (Recorded σ)}
    (tidy : link.Tidy) :
    (block config register data resume).Yields link
      (fun _ next ↦ CountsBlock config register data link none next)
      (fun error next ↦ CountsBlock config register data link (some error) next) := by
  refine (yields_block_course config register data resume tidy).imp ?_ ?_
  · rintro words next ⟨middle, packetSize, later, ⟨first, led, apart⟩, after, course⟩
    rw [led.dapIndex] at course
    exact ⟨first ++ later, (led.append after).conversation.saw, blockWaits_of_course apart course⟩
  · rintro error next (⟨turns, led, apart⟩ |
      ⟨middle, packetSize, later, ⟨first, led, apart⟩, after, course⟩)
    · exact ⟨turns, led.conversation.saw, blockWaits_of_apart config _ register data apart⟩
    · rw [led.dapIndex] at course
      exact ⟨first ++ later, (led.append after).conversation.saw, blockWaits_of_course apart course⟩

/-- WAITs are counted exactly for each access, whatever the transport does. A flush takes no more
frames than its wire entries may take, reports that WAITs ran out exactly if one entry was answered
WAIT as often in a row as is borne, and succeeds exactly if its frames completed or stopped at an
entry that did not have to wait that often. A block transfer takes no more block frames than its
words may take, and gives up exactly on a word that had to wait that often, as long as every WAIT
reports fewer words than its frame asked for. -/
theorem waits_accounted (config : TransferConfig) {calls : List (RegisterAccess × Nat)}
    {link : Link (Recorded σ)} (queued : Queued (Recorded σ) calls link.batch) :
    (flush config).Yields link
      (fun responses next ↦ ∃ turns, link.transport.Saw (turns.map .turn) next.transport ∧
        BatchWaits config link.state.dapIndex link.batch.entries turns ∧
        ((∃ response ∈ responses, response.status = .retryExhausted) ↔
          HasRow (waitLimit config) (waitMarks 0 turns)) ∧
        ((∀ response ∈ responses, response.status = .ok) ↔
          (∀ turn ∈ turns, turn.Completes ∨ turn.Waits) ∧
            ¬HasRow (waitLimit config) (waitMarks 0 turns)))
      (fun error next ↦ ∃ turns, link.transport.Saw (turns.map .turn) next.transport ∧
        BatchWaits config link.state.dapIndex link.batch.entries turns ∧
        error ≠ .retryExhausted ∧ ¬HasRow (waitLimit config) (waitMarks 0 turns)) ∧
    (∀ register count resume, (readBlock config register count resume).Yields link
      (fun _ next ↦ CountsBlock config register (.read count) link none next)
      (fun error next ↦ CountsBlock config register (.read count) link (some error) next)) ∧
    ∀ register words resume, (writeBlock config register words resume).Yields link
      (fun _ next ↦ CountsBlock config register (.write words) link none next)
      (fun error next ↦ CountsBlock config register (.write words) link (some error) next) := by
  refine ⟨?_, fun register count resume ↦ block_counts config register _ resume queued.tidy,
    fun register words resume ↦ ?_⟩
  · obtain ⟨⟨start, built⟩, -⟩ := queued.built
    have ends := Batch.last_entriesFrom start 0 (calls.map Prod.fst)
    rw [← built.entries] at ends
    refine (yields_flush_course config ends).imp ?_ ?_
    · rintro responses next ⟨turns, ending, ⟨led, course⟩, told⟩
      obtain ⟨waits, exhausted, complete⟩ := batchWaits_of_course course
      exact ⟨turns, led.conversation.saw, waits, told.exhausted_iff.trans exhausted.symm,
        told.ok_iff.trans complete⟩
    · rintro error next (⟨refused, rfl⟩ | ⟨isBroken, turns, led, course⟩)
      · have limit := waitLimit_pos config
        refine ⟨[], (Conversation.nil _).saw, ⟨trivial, Nat.zero_le _, ?_⟩, ?_, ?_⟩
        · exact Turn.not_hasRow_nil (Nat.zero_lt_succ _)
        · rcases refused with rfl | rfl <;> nofun
        · exact Turn.not_hasRow_nil limit
      · obtain ⟨waits, exhausted, -⟩ := batchWaits_of_course course
        have other : error ≠ .retryExhausted := by
          rintro rfl
          nomatch isBroken
        exact ⟨turns, led.conversation.saw, waits, other,
          fun row ↦ other (Option.some.inj (exhausted.mp row))⟩
  · unfold writeBlock
    rw [Action.yields_bind]
    exact (block_counts config register _ resume queued.tidy).imp (fun _ _ counts ↦ counts)
      fun _ _ counts ↦ counts

/-- A link to a target that accepts a write of SELECT and then has the host wait twice. -/
private def slow : Link (Recorded Simulator) where
  transport := { inner := { target := { answers := [.ok, .wait, .wait] } } }
  state := { status := .connected .swd }

/-- The link with a read in its batch, for which SELECT has to be written. -/
private def slowRead : Link (Recorded Simulator) :=
  ((queue 64 (.read (.access 1 0xFC))).outcome slow).2

/-- Two WAITs in a row to the second entry of a batch are too many where two are borne. -/
theorem waits_accounted_slowRead :
    Queued (Recorded Simulator) [(.read (.access 1 0xFC), 0)] slowRead.batch ∧
      slowRead.batch.entries.length = 2 ∧
      ∃ responses next turns,
        (flush { waitRetryLimit := 2 }).outcome slowRead = (.ok responses, next) ∧
        slowRead.transport.Saw (turns.map .turn) next.transport ∧ turns.length ≤ 4 ∧
        (∃ response ∈ responses, response.status = .retryExhausted) ∧
        HasRow 2 (waitMarks 0 turns) := by
  have none : Queued (Recorded Simulator) [] slow.batch := .empty
  have queued : Queued (Recorded Simulator) [(.read (.access 1 0xFC), 0)] slowRead.batch :=
    .queue none (Prod.ext rfl rfl)
  have counts := (waits_accounted { waitRetryLimit := 2 } queued).1
  refine ⟨queued, rfl, ?_⟩
  have exhausts : (((flush { waitRetryLimit := 2 }).outcome slowRead).1.toOption.map
      fun responses ↦ responses.map AccessResponse.status) = some [.retryExhausted] := by
    decide +kernel
  cases outcome : (flush { waitRetryLimit := 2 }).outcome slowRead with
  | mk result next =>
    rw [outcome] at exhausts
    cases result with
    | error error => nomatch exhausts
    | ok responses =>
      obtain ⟨turns, saw, waits, exhausted, -⟩ := counts.of_ok outcome
      have told : responses.map AccessResponse.status = [.retryExhausted] :=
        Option.some.inj exhausts
      have reported : ∃ response ∈ responses, response.status = .retryExhausted := by
        rw [← List.mem_map, told]
        exact List.mem_singleton_self _
      exact ⟨responses, next, turns, rfl, saw, waits.few, reported, exhausted.mp reported⟩

end Link

end DebugProbe
