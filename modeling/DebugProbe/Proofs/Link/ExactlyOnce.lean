import DebugProbe.Proofs.Link.Flush
import DebugProbe.Proofs.Link.Queue
import DebugProbe.Proofs.Simulator.Traced

/-!
# Every access once and in order

A target that records what it carries out shows that a flush neither loses nor repeats an access,
and that the responses tell exactly which accesses were carried out and what the reads gave.
-/

namespace DebugProbe

namespace Batch

/-- The record entries that carry accesses, in order. -/
def accessEvents (entries : List BatchEntry) (executed : List AccessEvent) : List AccessEvent :=
  (entries.zip executed).filterMap fun (entry, event) ↦ entry.origin.map fun _ ↦ event

/-- How a batch that carries some accesses was settled: what the target carried out and what the
caller is told. -/
structure Settled (entries : List BatchEntry) (accesses : List RegisterAccess)
    (executed : List AccessEvent) (responses : List AccessResponse) : Prop where
  /-- The target carried out the entries from the first one on, in order and each once. -/
  executed_prefix : executed.map Prod.fst <+: entries.map BatchEntry.wire
  /-- Each access has one response. -/
  index : responses.map AccessResponse.index = List.range accesses.length
  /-- Accesses are OK up to the first failure; those after it were not tried. -/
  status : ∃ done, responses.map AccessResponse.status = List.replicate done .ok ∨
    ∃ failure dropped, failure ≠ .ok ∧ failure ≠ .aborted ∧
      responses.map AccessResponse.status =
        List.replicate done .ok ++ failure :: List.replicate dropped .aborted
  /-- The accesses that are OK are those that were carried out, with the words that reads gave. -/
  events : accessEvents entries executed =
    ((accesses.zip responses).filter fun (_, response) ↦ response.status == .ok).map
      fun (access, response) ↦ (access.wire, response.value)
  /-- Only reads that are OK give values. -/
  value : ∀ pair ∈ accesses.zip responses,
    pair.2.value.isSome = (pair.2.status == .ok && pair.1.value?.isNone)
  /-- All accesses are OK exactly if the whole batch was carried out. -/
  complete : (∀ response ∈ responses, response.status = .ok) ↔ executed.length = entries.length

/-- The wire forms of the accesses that some entries carry. -/
private def accessWires (entries : List BatchEntry) : List Transfer :=
  entries.filterMap fun entry ↦ entry.origin.map fun _ ↦ entry.wire

private theorem length_accessWires (entries : List BatchEntry) :
    (accessWires entries).length = (entries.filterMap BatchEntry.origin).length := by
  induction entries with
  | nil => rfl
  | cons entry rest ih =>
    unfold accessWires at ih ⊢
    rw [List.filterMap_cons, List.filterMap_cons]
    cases entry.origin with
    | none => exact ih
    | some index => exact congrArg Nat.succ ih

/-- The record of what was carried out has the words of the responses. -/
private theorem accessEvents_zip (entries : List BatchEntry) (data : List (Option UInt32)) :
    accessEvents entries (((entries.take data.length).map BatchEntry.wire).zip data) =
      (accessWires (entries.take data.length)).zip
        ((completed entries data).map AccessResponse.value) := by
  induction data generalizing entries with
  | nil => simp [accessEvents]
  | cons word data ih =>
    cases entries with
    | nil => simp [accessEvents, accessWires]
    | cons entry rest =>
      have later := ih rest
      unfold accessEvents accessWires at later ⊢
      rw [completed_cons, List.length_cons, List.take_succ_cons, List.map_cons, List.zip_cons_cons,
        List.zip_cons_cons, List.filterMap_cons, List.filterMap_cons, List.map_append, later]
      dsimp only
      cases entry.origin with
      | none => rfl
      | some index => rfl

/-- Of the accesses that a batch carries the first ones are carried out. -/
private theorem accessWires_take {batch : Batch} {start : Option Select}
    {accesses : List RegisterAccess} (built : batch.Built start accesses) (count : Nat) :
    accessWires (batch.entries.take count) =
      (accesses.take ((batch.entries.take count).filterMap BatchEntry.origin).length).map
        RegisterAccess.wire := by
  have whole : accessWires (batch.entries.take count) <+: accesses.map RegisterAccess.wire := by
    rw [← wires_entriesFrom start 0, ← built.entries]
    exact (List.take_prefix count batch.entries).filterMap _
  rw [List.prefix_iff_eq_take.mp whole, length_accessWires, List.map_take]

private theorem zip_responses {accesses : List RegisterAccess}
    {first second : List AccessResponse} (le : first.length ≤ accesses.length) :
    accesses.zip (first ++ second) =
      (accesses.take first.length).zip first ++ (accesses.drop first.length).zip second := by
  conv => lhs; rw [← List.take_append_drop first.length accesses]
  exact List.zip_append (List.length_take_of_le le)

/-- The first accesses completed and were answered OK, the others were not. -/
private theorem filter_zip_responses {accesses : List RegisterAccess}
    {first second : List AccessResponse} (le : first.length ≤ accesses.length)
    (ok : ∀ response ∈ first, response.status = .ok)
    (notOk : ∀ response ∈ second, response.status ≠ .ok) :
    ((accesses.zip (first ++ second)).filter fun (_, response) ↦ response.status == .ok) =
      (accesses.take first.length).zip first := by
  rw [zip_responses le, List.filter_append]
  have kept : ((accesses.take first.length).zip first).filter
      (fun (_, response) ↦ response.status == .ok) = (accesses.take first.length).zip first := by
    apply List.filter_eq_self.mpr
    intro pair member
    exact beq_iff_eq.mpr (ok pair.2 (List.of_mem_zip member).2)
  have dropped : ((accesses.drop first.length).zip second).filter
      (fun (_, response) ↦ response.status == .ok) = [] := by
    apply List.filter_eq_nil_iff.mpr
    intro pair member
    rw [beq_iff_eq]
    exact notOk pair.2 (List.of_mem_zip member).2
  rw [kept, dropped, List.append_nil]

private theorem isSome_of_mem_zip {transfers : List Transfer} {data : List (Option UInt32)}
    (kinds : data.map Option.isSome = transfers.map Transfer.isRead) {event : AccessEvent}
    (member : event ∈ transfers.zip data) : event.2.isSome = event.1.isRead := by
  induction transfers generalizing data with
  | nil => nomatch member
  | cons transfer rest ih =>
    cases data with
    | nil => nomatch member
    | cons word data =>
      rw [List.map_cons, List.map_cons, List.cons.injEq] at kinds
      rw [List.zip_cons_cons] at member
      rcases List.mem_cons.mp member with rfl | later
      · exact kinds.1
      · exact ih kinds.2 later

/-- A batch of which the first entries were carried out is settled by the responses to it. -/
theorem Built.settled {batch : Batch} {start : Option Select}
    {accesses : List RegisterAccess} (built : batch.Built start accesses)
    {data : List (Option UInt32)} (le : data.length ≤ batch.entries.length)
    (kinds : data.map Option.isSome =
      ((batch.entries.take data.length).map BatchEntry.wire).map Transfer.isRead)
    (failure : AccessStatus) (notOk : failure ≠ .ok) (tried : failure ≠ .aborted) :
    Settled batch.entries accesses
      (((batch.entries.take data.length).map BatchEntry.wire).zip data)
      (completed batch.entries data ++ failed failure (batch.entries.drop data.length)) := by
  have lengths : ((batch.entries.take data.length).map BatchEntry.wire).length = data.length := by
    rw [List.length_map, List.length_take_of_le le]
  have index := index_completed batch.entries data
  have count : (completed batch.entries data).length =
      ((batch.entries.take data.length).filterMap BatchEntry.origin).length := by
    rw [← index, List.length_map]
  have indices : (completed batch.entries data ++
      failed failure (batch.entries.drop data.length)).map AccessResponse.index =
        List.range accesses.length := by
    rw [List.map_append, index, index_failed, ← List.filterMap_append, List.take_append_drop,
      built.entries, origins_entriesFrom, List.range_eq_range']
  have few : (completed batch.entries data).length ≤ accesses.length := by
    have whole := congrArg List.length indices
    rw [List.length_map, List.length_append, List.length_range] at whole
    omega
  have ok : ∀ response ∈ completed batch.entries data, response.status = .ok :=
    fun _ member ↦ status_completed member
  have others : ∀ response ∈ failed failure (batch.entries.drop data.length),
      response.status ≠ .ok :=
    fun _ member ↦ status_failed_ne_ok notOk member
  have events : accessEvents batch.entries
      (((batch.entries.take data.length).map BatchEntry.wire).zip data) =
        ((accesses.take (completed batch.entries data).length).zip
          (completed batch.entries data)).map
            fun (access, response) ↦ (access.wire, response.value) := by
    rw [accessEvents_zip, accessWires_take built, ← count, List.zip_map]
    rfl
  constructor
  case executed_prefix =>
    rw [List.map_fst_zip (Nat.le_of_eq lengths)]
    exact (List.take_prefix _ _).map _
  case index => exact indices
  case status =>
    have good : (completed batch.entries data).map AccessResponse.status =
        List.replicate (completed batch.entries data).length .ok :=
      List.map_eq_replicate_iff.mpr ok
    refine ⟨(completed batch.entries data).length, ?_⟩
    rw [List.map_append, good, status_failed]
    split
    · exact .inl (List.append_nil _)
    · next first rest more => exact .inr ⟨failure, rest.length, notOk, tried, rfl⟩
  case events => rw [events, filter_zip_responses few ok others]
  case value =>
    intro pair member
    rw [zip_responses few] at member
    rcases List.mem_append.mp member with done | dropped
    · have recorded := List.mem_map_of_mem
        (f := fun pair : RegisterAccess × AccessResponse ↦ (pair.1.wire, pair.2.value)) done
      rw [← events] at recorded
      obtain ⟨⟨entry, event⟩, zipped, origin⟩ := List.mem_filterMap.mp recorded
      obtain ⟨position, -, rfl⟩ := Option.map_eq_some_iff.mp origin
      have kind := isSome_of_mem_zip kinds (List.of_mem_zip zipped).2
      rw [ok pair.2 (List.of_mem_zip done).2, kind]
      rfl
    · rw [beq_eq_false_iff_ne.mpr (others pair.2 (List.of_mem_zip dropped).2),
        value_failed (List.of_mem_zip dropped).2]
      rfl
  case complete =>
    rw [List.length_zip, lengths, Nat.min_self]
    constructor
    · intro all
      have none : failed failure (batch.entries.drop data.length) = [] := by
        apply List.eq_nil_iff_forall_not_mem.mpr
        intro response member
        exact others response member (all response (List.mem_append_right _ member))
      have dropped := index_failed failure (batch.entries.drop data.length)
      rw [none] at dropped
      have := List.drop_eq_nil_iff.mp (built.drop_eq_nil dropped.symm)
      omega
    · intro all response member
      rw [all, List.drop_length] at member
      rcases List.mem_append.mp member with done | dropped
      · exact ok response done
      · nomatch dropped

end Batch

variable {σ : Type} [Transport σ]

/-- A flush of a batch that was built by queue calls has the target carry out a prefix of it, in
order and each entry once, whatever the target answers and wherever an exchange breaks off. If the
flush answers, its responses settle the batch, each at the position that its queue call gave; it
does not answer only if the link is not ready for accesses or an exchange breaks. -/
theorem TruthfulProbe.flush_settles {log : σ → List AccessEvent} {ready broken : σ → Prop}
    (probe : TruthfulProbe .recording log ready broken) (config : TransferConfig)
    {calls : List (RegisterAccess × Nat)} {link : Link σ} (isReady : ready link.transport)
    (queued : Link.Queued σ calls link.batch) :
    (Link.flush config).Yields link
      (fun responses next ↦ ∃ executed,
        log next.transport = log link.transport ++ executed ∧
        Batch.Settled link.batch.entries (calls.map Prod.fst) executed responses ∧
        responses.map AccessResponse.index = calls.map Prod.snd)
      (fun error next ↦
        (error = .notConnected ∨ error = .stickyErrorPending ∨ error.isBroken = true) ∧
        ∃ executed, log next.transport = log link.transport ++ executed ∧
          executed.map Prod.fst <+: link.batch.entries.map BatchEntry.wire) := by
  obtain ⟨⟨start, built⟩, positions⟩ := queued.built
  refine (probe.flush config isReady).imp ?_ ?_
  · rintro responses next ⟨-, -, -, -, data, ⟨le, carries⟩, outcome⟩
    refine ⟨_, carries.recorded, ?_⟩
    rcases outcome with ⟨all, rfl, -⟩ | ⟨failure, -, -, less, kind, rfl, -⟩
    · have whole := built.settled le carries.isSome_words .fault nofun nofun
      have none : Batch.failed .fault (link.batch.entries.drop data.length) = [] := by
        rw [all, List.drop_length]
        rfl
      rw [none, List.append_nil] at whole
      refine ⟨whole, ?_⟩
      rw [whole.index, positions, List.length_map]
    · have notOk : failure ≠ .ok := by rcases kind with rfl | rfl | rfl <;> nofun
      have tried : failure ≠ .aborted := by rcases kind with rfl | rfl | rfl <;> nofun
      have part := built.settled le carries.isSome_words failure notOk tried
      refine ⟨part, ?_⟩
      rw [part.index, positions, List.length_map]
  · rintro error next (⟨refused, rfl⟩ | ⟨lost, ⟨isBroken, -, -, -, data, le, carries⟩, rfl⟩)
    · have why : error = .notConnected ∨ error = .stickyErrorPending ∨ error.isBroken = true := by
        rcases refused with refused | refused
        · exact .inl refused
        · exact .inr (.inl refused)
      exact ⟨why, [], (List.append_nil _).symm, List.nil_prefix⟩
    · refine ⟨.inr (.inr isBroken), _, carries.recorded, ?_⟩
      rw [List.map_fst_zip (Nat.le_of_eq carries.length_words.symm)]
      exact (List.take_prefix _ _).map _

/-- A link to a target that makes the second of three accesses wait and refuses the third. -/
private def busyTarget : Link Traced where
  transport := { simulator := { target := { answers := [.ok, .wait, .ok, .wait, .ok, .fault] } } }
  state := { status := .connected .swd }

/-- The link once an access was queued. -/
private def queueing (link : Link Traced) (access : RegisterAccess) : Link Traced :=
  ((Link.queue 64 access).outcome link).2

/-- Three accesses of which the second one means another access port. -/
private def threeAccesses : List RegisterAccess :=
  [.read (.debug 0x00), .write (.access 1 0x04) 5, .read (.debug 0x0C)]

/-- The link with the accesses in its batch. -/
private def busyLink : Link Traced := threeAccesses.foldl queueing busyTarget

private theorem queued_busyLink :
    Link.Queued Traced (threeAccesses.zip [0, 1, 2]) busyLink.batch := by
  have queues {calls : List (RegisterAccess × Nat)} {link : Link Traced} {index : Nat}
      (access : RegisterAccess) (queued : Link.Queued Traced calls link.batch)
      (accepted : ((Link.queue 64 access).outcome link).1 = .ok index) :
      Link.Queued Traced (calls ++ [(access, index)]) (queueing link access).batch :=
    .queue queued (Prod.ext accepted rfl)
  have none : Link.Queued Traced [] busyTarget.batch := .empty
  have one := queues (.read (.debug 0x00)) none rfl
  have two := queues (.write (.access 1 0x04) 5) one rfl
  exact queues (.read (.debug 0x0C)) two rfl

/-- The flush settles a batch at which the target waits and then refuses an access. -/
theorem TruthfulProbe.flush_settles_busyLink :
    Traced.Idle busyLink.transport ∧
      Link.Queued Traced (threeAccesses.zip [0, 1, 2]) busyLink.batch ∧
      ∃ responses next executed, (Link.flush {}).outcome busyLink = (.ok responses, next) ∧
        next.transport.events = busyLink.transport.events ++ executed ∧
        Batch.Settled busyLink.batch.entries threeAccesses executed responses ∧
        responses.map AccessResponse.index = [0, 1, 2] := by
  have idle : Traced.Idle busyLink.transport := ⟨rfl, rfl, rfl⟩
  have settles := Traced.truthful_events.flush_settles {} idle queued_busyLink
  refine ⟨idle, queued_busyLink, ?_⟩
  cases outcome : (Link.flush {}).outcome busyLink with
  | mk result next =>
    cases result with
    | ok responses =>
      obtain ⟨executed, log, settled, positions⟩ := settles.of_ok outcome
      exact ⟨responses, next, executed, rfl, log, settled, positions⟩
    | error error =>
      have answered : ((Link.flush {}).outcome busyLink).1.isOk = true := by decide +kernel
      rw [outcome] at answered
      nomatch answered

end DebugProbe
