import DebugProbe.Proofs.Link.BlockLooping
import DebugProbe.Transport.Recorded
import DebugProbe.Transport.Replay

/-!
# Answers that contradict themselves

An answer may claim that every access of its frame completed and still have a status that is not OK.
A flush takes such an answer for an error and stops. A block transfer believes the status: after a
WAIT it goes on behind the words that completed, and if these were the last ones it succeeds.
-/

namespace DebugProbe

open Turn (Apart Candid ofCommand)

namespace Link

variable {σ : Type} [Transport σ]

/-- What a block transfer puts on the wire. It ends as the answers warrant exactly if no block
answer contradicts itself. -/
def JudgesBlock (link : Link (Recorded σ)) (ending : Option AccessError)
    (next : Link (Recorded σ)) : Prop :=
  ∃ turns, link.transport.Saw (turns.map .turn) next.transport ∧
    (Candid turns ending ↔ ∀ turn ∈ ofCommand .transferBlock turns, ¬turn.Contradicts)

/-- A block transfer ends as it should if none of its own answers contradicts itself, and only
then. -/
private theorem candid_iff_of_course {config : TransferConfig} {dapIndex : UInt8}
    {register : RegisterAddress} {packetSize : Nat} {data : BlockData} {first later : List Turn}
    {ending : Option AccessError} (apart : Apart .transferBlock first none)
    (course : (blockLoop config dapIndex register packetSize data).Course 0 0 later ending) :
    Candid (first ++ later) ending ↔
      ∀ turn ∈ ofCommand .transferBlock (first ++ later), ¬turn.Contradicts := by
  rw [Turn.ofCommand_append, apart.ofCommand_eq_nil, List.nil_append]
  constructor
  · intro candid
    exact course.not_contradicts rfl candid.of_append
  · intro sound
    exact apart.candid.append (course.candid fun _ ↦ sound)

private theorem block_judges (config : TransferConfig) (register : RegisterAddress)
    (data : BlockData) (resume : Option BlockResume) {link : Link (Recorded σ)}
    (tidy : link.Tidy) :
    (block config register data resume).Yields link (fun _ next ↦ JudgesBlock link none next)
      (fun error next ↦ JudgesBlock link (some error) next) := by
  refine (yields_block_course config register data resume tidy).imp ?_ ?_
  · rintro words next ⟨middle, packetSize, later, ⟨first, led, apart⟩, after, course⟩
    exact ⟨first ++ later, (led.append after).conversation.saw, candid_iff_of_course apart course⟩
  · rintro error next (⟨turns, led, apart⟩ |
      ⟨middle, packetSize, later, ⟨first, led, apart⟩, after, course⟩)
    · refine ⟨turns, led.conversation.saw, iff_of_true apart.candid ?_⟩
      rw [apart.ofCommand_eq_nil]
      exact List.forall_mem_nil _
    · exact ⟨first ++ later, (led.append after).conversation.saw,
        candid_iff_of_course apart course⟩

/-- Every flush ends as the answers warrant, whatever the transport does: if all accesses are OK
then each frame completed or stopped at an access that had to wait, an answer that contradicts
itself is an error of its command, and nothing is written after it. A block read or write does so
exactly if no answer to one of its block commands contradicts itself. -/
theorem candid_iff (config : TransferConfig) {calls : List (RegisterAccess × Nat)}
    {link : Link (Recorded σ)} (queued : Queued (Recorded σ) calls link.batch) :
    (flush config).Yields link
      (fun responses next ↦ ∃ turns, link.transport.Saw (turns.map .turn) next.transport ∧
        Candid turns (Batch.failure? responses) ∧ ∀ turn ∈ turns, ¬turn.Contradicts)
      (fun error next ↦ ∃ turns, link.transport.Saw (turns.map .turn) next.transport ∧
        Candid turns (some error)) ∧
    (∀ register count resume, (readBlock config register count resume).Yields link
      (fun _ next ↦ JudgesBlock link none next)
      (fun error next ↦ JudgesBlock link (some error) next)) ∧
    ∀ register words resume, (writeBlock config register words resume).Yields link
      (fun _ next ↦ JudgesBlock link none next)
      (fun error next ↦ JudgesBlock link (some error) next) := by
  refine ⟨?_, fun register count resume ↦ block_judges config register _ resume queued.tidy,
    fun register words resume ↦ ?_⟩
  · obtain ⟨⟨start, built⟩, -⟩ := queued.built
    have ends := Batch.last_entriesFrom start 0 (calls.map Prod.fst)
    rw [← built.entries] at ends
    refine (yields_flush_course config ends).imp ?_ ?_
    · rintro responses next ⟨turns, ending, ⟨led, course⟩, told⟩
      have candid := course.candid nofun
      refine ⟨turns, led.conversation.saw, told.eq_failure ▸ candid, ?_⟩
      intro turn member contradicts
      obtain ⟨before, after, shape⟩ := List.append_of_mem member
      obtain ⟨-, unexpected⟩ := candid.stops before turn after shape contradicts
      exact told.ne_unexpectedAnswer unexpected
    · rintro error next (⟨refused, rfl⟩ | ⟨isBroken, turns, led, course⟩)
      · exact ⟨[], (Conversation.nil _).saw, Turn.candid_nil _⟩
      · exact ⟨turns, led.conversation.saw, course.candid nofun⟩
  · unfold writeBlock
    rw [Action.yields_bind]
    exact (block_judges config register _ resume queued.tidy).imp (fun _ _ judges ↦ judges)
      fun _ _ judges ↦ judges

/-- A link to a probe that reports one completed access and a WAIT. -/
private def misreported (code : UInt8) (report : Bytes) : Link (Recorded Replay) where
  transport := { inner := { answers := [.ok (code :: report)] } }
  state := { status := .connected .swd, selectCache := some ⟨0⟩ }

/-- Recorded replays with the same answers left and the same events are the same. -/
private theorem eq_of_answers {first second : Recorded Replay}
    (answers : first.inner.answers = second.inner.answers)
    (size : first.inner.packetSize = second.inner.packetSize)
    (events : first.events = second.events) : first = second := by
  obtain ⟨⟨_, _⟩, _⟩ := first
  obtain ⟨⟨_, _⟩, _⟩ := second
  dsimp only at answers size events
  rw [answers, size, events]

/-- The write of one word succeeds over a probe that claims to have written the word and to have to
wait. -/
theorem not_candid_misreported :
    ∃ next turn,
      (writeBlock {} (.access 0 4) [5] none).outcome (misreported 0x06 [1, 0, 0x02]) =
        (.ok (), next) ∧
      (misreported 0x06 [1, 0, 0x02]).transport.Saw [.turn turn] next.transport ∧
      turn.request.command = .transferBlock ∧ turn.Contradicts ∧ ¬Candid [turn] none := by
  let link := misreported 0x06 [1, 0, 0x02]
  let next := ((writeBlock {} (.access 0 4) [5] none).outcome link).2
  let request : BlockRequest := ⟨0, .access, 4, .write [5]⟩
  let turn : Turn := ⟨.transferBlock request, true, .ok ⟨1, .ofByte 0x02, []⟩⟩
  have succeeds : ((writeBlock {} (.access 0 4) [5] none).outcome link).1 = .ok () := by
    decide +kernel
  have answered : ((Probe.exchange (.transferBlock request)).outcome link.transport).1 =
      .ok ⟨1, .ofByte 0x02, []⟩ := by
    decide +kernel
  have leaves : ((Probe.exchange (.transferBlock request)).outcome link.transport).2 =
      next.transport := by
    apply eq_of_answers
    · decide +kernel
    · decide +kernel
    · decide +kernel
  have leads : turn.Leads link.transport next.transport :=
    ⟨by decide +kernel, Prod.ext answered leaves⟩
  have contradicts : turn.Contradicts := ⟨_, rfl, by decide, by decide⟩
  refine ⟨next, turn, Prod.ext succeeds rfl, (Conversation.turn leads (.nil _)).saw, rfl,
    contradicts, fun candid ↦ ?_⟩
  nomatch (candid.stops [] turn [] rfl contradicts).2

/-- A flush of one read fails with the same report. -/
theorem candid_iff_misreported :
    ∃ (queued next : Link (Recorded Replay)) (turns : List Turn),
      Queued (Recorded Replay) [(.read (.debug 0), 0)] queued.batch ∧
      (flush {}).outcome queued = (.error (.unexpectedAnswer .transfer), next) ∧
      queued.transport.Saw (turns.map .turn) next.transport ∧
      Candid turns (some (.unexpectedAnswer .transfer)) := by
  let link := misreported 0x05 [1, 0x02, 1, 2, 3, 4]
  let queued : Link (Recorded Replay) := ((queue 64 (.read (.debug 0))).outcome link).2
  have none : Queued (Recorded Replay) [] link.batch := .empty
  have isQueued : Queued (Recorded Replay) [(.read (.debug 0), 0)] queued.batch :=
    .queue none (Prod.ext rfl rfl)
  have judges := (candid_iff {} isQueued).1
  have fails : ((flush {}).outcome queued).1 = .error (.unexpectedAnswer .transfer) := by
    decide +kernel
  obtain ⟨turns, saw, candid⟩ := (Action.yields_iff.mp judges).2 _ _ (Prod.ext fails rfl)
  exact ⟨queued, _, turns, isQueued, Prod.ext fails rfl, saw, candid⟩

end Link

end DebugProbe
