import DebugProbe.Proofs.Link.Steps
import DebugProbe.Proofs.Probe.Conversation

/-!
# What transfer answers report

The answer to a frame of accesses tells how many of them completed and how the last one that was
tried was acknowledged. It may say that all completed, that the next access has to wait, that the
next one failed, or contradict itself: all completed and yet the status is not OK. The marks of a
list of exchanges tell which access each of them left waiting.
-/

namespace DebugProbe

instance (status : TransferStatus) : Decidable status.IsWait :=
  inferInstanceAs (Decidable (status.acknowledge = .wait ∧ status.protocolError = false))

/-- A WAIT is no success. -/
theorem TransferStatus.IsWait.isOk {status : TransferStatus} (wait : status.IsWait) :
    status.isOk = false := by
  unfold TransferStatus.isOk
  rw [wait.1]
  rfl

/-- Number of accesses that a request puts to the target. -/
def Request.accessCount : Request → Nat
  | transfer request => request.transfers.length
  | transferBlock request => request.access.count.toNat
  | _ => 0

/-- What an answer says about the accesses of its frame. -/
structure AccessReport where
  /-- Number of accesses in the frame. -/
  asked : Nat
  /-- Number of accesses that completed. -/
  count : Nat
  status : TransferStatus

namespace AccessReport

variable {report : AccessReport}

/-- All accesses completed. -/
def Completes (report : AccessReport) : Prop :=
  report.count = report.asked ∧ report.status.isOk = true

/-- Some access has to wait, after those that completed. -/
def Waits (report : AccessReport) : Prop :=
  report.count < report.asked ∧ report.status.IsWait

/-- All accesses completed, and yet the status is not OK. -/
def Contradicts (report : AccessReport) : Prop :=
  report.count = report.asked ∧ report.status.isOk = false

instance (report : AccessReport) : Decidable report.Waits :=
  inferInstanceAs (Decidable (report.count < report.asked ∧ report.status.IsWait))

theorem Completes.not_contradicts (completes : report.Completes) : ¬report.Contradicts := by
  rintro ⟨-, failed⟩
  rw [completes.2] at failed
  nomatch failed

theorem Completes.not_waits (completes : report.Completes) : ¬report.Waits :=
  fun waits ↦ absurd completes.1 (Nat.ne_of_lt waits.1)

theorem Waits.not_contradicts (waits : report.Waits) : ¬report.Contradicts :=
  fun contradicts ↦ absurd contradicts.1 (Nat.ne_of_lt waits.1)

end AccessReport

namespace Turn

/-- What the answer of an exchange reports, `none` if there is no answer or it reports nothing. -/
def report? : Turn → Option AccessReport
  | ⟨.transfer request, _, .ok reply⟩ =>
    some ⟨(Request.transfer request).accessCount, reply.count, reply.status⟩
  | ⟨.transferBlock request, _, .ok reply⟩ =>
    some ⟨(Request.transferBlock request).accessCount, reply.count, reply.status⟩
  | _ => none

/-- A report is about the accesses of its frame. -/
theorem asked_of_report {turn : Turn} {report : AccessReport}
    (answer : turn.report? = some report) : report.asked = turn.request.accessCount := by
  unfold report? at answer
  split at answer
  · obtain rfl := Option.some.inj answer
    rfl
  · obtain rfl := Option.some.inj answer
    rfl
  · nomatch answer

/-- All accesses of the frame completed, with an OK. -/
def Completes (turn : Turn) : Prop := ∃ report ∈ turn.report?, report.Completes

/-- The frame stopped at an access that has to wait. -/
def Waits (turn : Turn) : Prop := ∃ report ∈ turn.report?, report.Waits

/-- The answer claims that all accesses completed, with a status that is not OK. -/
def Contradicts (turn : Turn) : Prop := ∃ report ∈ turn.report?, report.Contradicts

/-- Number of accesses that completed, as far as the answer tells. -/
def progress (turn : Turn) : Nat := (turn.report?.map AccessReport.count).getD 0

/-- The position of the access that an exchange left waiting, if its frame begins at a position. -/
def waitMark (start : Nat) (turn : Turn) : Option Nat :=
  turn.report?.bind fun report ↦ if report.Waits then some (start + report.count) else none

/-- For each exchange the position of the access that it left waiting, if each frame begins where
the one before it stopped. -/
def waitMarks : Nat → List Turn → List (Option Nat)
  | _, [] => []
  | start, turn :: rest => turn.waitMark start :: waitMarks (start + turn.progress) rest

section Report

variable {turn : Turn} {report : AccessReport}

theorem waits_iff (answer : turn.report? = some report) : turn.Waits ↔ report.Waits := by
  unfold Waits
  rw [answer]
  exact ⟨fun ⟨_, same, waits⟩ ↦ Option.some.inj same ▸ waits, fun waits ↦ ⟨report, rfl, waits⟩⟩

theorem contradicts_iff (answer : turn.report? = some report) :
    turn.Contradicts ↔ report.Contradicts := by
  unfold Contradicts
  rw [answer]
  exact ⟨fun ⟨_, same, contradicts⟩ ↦ Option.some.inj same ▸ contradicts, fun contradicts ↦
    ⟨report, rfl, contradicts⟩⟩

/-- An exchange without a report contradicts nothing. -/
theorem not_contradicts_of_none (silent : turn.report? = none) : ¬turn.Contradicts := by
  rintro ⟨report, member, -⟩
  rw [silent] at member
  nomatch member

theorem progress_of_report (answer : turn.report? = some report) :
    turn.progress = report.count := by
  unfold progress
  rw [answer]
  rfl

theorem waitMark_of_report (answer : turn.report? = some report) (start : Nat) :
    turn.waitMark start = if report.Waits then some (start + report.count) else none := by
  unfold waitMark
  rw [answer]
  rfl

/-- An exchange that leaves no access waiting is not marked. -/
theorem waitMark_eq_none (passes : ¬turn.Waits) (start : Nat) : turn.waitMark start = none := by
  cases answer : turn.report? with
  | none =>
    unfold waitMark
    rw [answer]
    rfl
  | some report => rw [waitMark_of_report answer, if_neg (mt (waits_iff answer).mpr passes)]

/-- An exchange marks the access that it left waiting. -/
theorem waitMark_eq_some (answer : turn.report? = some report) (waits : report.Waits)
    (start : Nat) : turn.waitMark start = some (start + report.count) := by
  rw [waitMark_of_report answer, if_pos waits]

end Report

/-- Some access was left waiting a number of times in a row. -/
def HasRow (size : Nat) (marks : List (Option Nat)) : Prop :=
  ∃ position, List.replicate size (some position) <:+: marks

section Rows

variable {size held position : Nat} {marks : List (Option Nat)}

theorem not_hasRow_nil (some : 0 < size) : ¬HasRow size [] := by
  rintro ⟨position, row⟩
  have none := List.eq_nil_of_infix_nil row
  rw [List.replicate_eq_nil_iff] at none
  exact absurd none (Nat.ne_of_gt some)

/-- WAITs to one access make rows up to their number. -/
theorem hasRow_replicate : HasRow size (List.replicate held (some position)) ↔ size ≤ held := by
  constructor
  · rintro ⟨other, row⟩
    have le := row.length_le
    rwa [List.length_replicate, List.length_replicate] at le
  · intro le
    refine ⟨position, [], List.replicate (held - size) (some position), ?_⟩
    rw [List.nil_append, List.replicate_append_replicate, Nat.add_sub_cancel' le]

/-- A row does not begin in front of something else. -/
private theorem not_prefix_of_held {mark : Option Nat} (few : held < size)
    (other : mark ≠ some position) (starts : 0 < held) (item : Nat) (marks : List (Option Nat)) :
    ¬List.replicate size (some item) <+:
      List.replicate held (some position) ++ mark :: marks := by
  intro row
  have held_at {index : Nat} (less : index < size) :
      (List.replicate held (some position) ++ mark :: marks)[index]? = some (some item) := by
    have given := List.prefix_iff_getElem?.mp row index (by rwa [List.length_replicate])
    rwa [List.getElem_replicate] at given
  have first := held_at (Nat.zero_lt_of_lt few)
  have last := held_at few
  rw [List.getElem?_append_left (by rwa [List.length_replicate]),
    List.getElem?_replicate_of_lt starts] at first
  rw [List.getElem?_append_right (Nat.le_of_eq List.length_replicate), List.length_replicate,
    Nat.sub_self, List.getElem?_cons_zero] at last
  exact other ((Option.some.inj last).trans (Option.some.inj first).symm)

/-- Too few WAITs to one access do not add up with what comes after something else. -/
theorem hasRow_after {mark : Option Nat} (few : held < size) (other : mark ≠ some position) :
    HasRow size (List.replicate held (some position) ++ mark :: marks) ↔
      HasRow size (mark :: marks) := by
  unfold HasRow
  refine exists_congr fun item ↦ ?_
  induction held with
  | zero => rfl
  | succ held ih =>
    have never := not_prefix_of_held few other (Nat.zero_lt_succ _) item marks
    rw [List.replicate_succ, List.cons_append] at never ⊢
    rw [List.infix_cons_iff, or_iff_right never]
    exact ih (Nat.lt_of_succ_lt few)

/-- A row does not begin at an exchange that left nothing waiting. -/
theorem hasRow_none (some : 0 < size) : HasRow size (none :: marks) ↔ HasRow size marks := by
  unfold HasRow
  refine exists_congr fun position ↦ ?_
  have never : ¬List.replicate size (Option.some position) <+: none :: marks := by
    obtain ⟨less, rfl⟩ := Nat.exists_eq_succ_of_ne_zero (Nat.ne_of_gt some)
    rw [List.replicate_succ, List.cons_prefix_cons]
    exact fun ⟨same, _⟩ ↦ nomatch same
  rw [List.infix_cons_iff, or_iff_right never]

end Rows

/-- Exchanges ended, with an error unless all accesses completed, as their answers warrant. -/
structure Candid (turns : List Turn) (ending : Option AccessError) : Prop where
  /-- Success rests on frames that completed, or stopped at an access that had to wait. -/
  warranted : ending = none → ∀ turn ∈ turns, turn.Completes ∨ turn.Waits
  /-- Nothing follows an answer that contradicts itself, and the error tells its command. -/
  stops : ∀ before turn after, turns = before ++ turn :: after → turn.Contradicts →
    after = [] ∧ ending = some (.unexpectedAnswer turn.request.command)

section Candid

variable {turns later : List Turn} {turn : Turn} {ending : Option AccessError}

theorem candid_nil (ending : Option AccessError) : Candid [] ending where
  warranted _ := List.forall_mem_nil _
  stops before turn after shape := by
    have some := congrArg List.length shape
    simp at some

/-- An exchange with which all ends may contradict itself if the error says so. -/
theorem candid_singleton {error : AccessError}
    (stops : turn.Contradicts → error = .unexpectedAnswer turn.request.command) :
    Candid [turn] (some error) where
  warranted := nofun
  stops before other after shape contradicts := by
    obtain ⟨-, rfl, none⟩ : before = [] ∧ turn = other ∧ after = [] := by
      cases before with
      | nil => exact ⟨rfl, (List.cons.inj shape).1, (List.cons.inj shape).2.symm⟩
      | cons first rest =>
        have none := (List.cons.inj shape).2
        simp at none
    exact ⟨none, congrArg some (stops contradicts)⟩

/-- After an exchange that does not contradict itself it matters what follows. -/
theorem Candid.cons (rest : Candid turns ending) (sound : turn.Completes ∨ turn.Waits) :
    Candid (turn :: turns) ending where
  warranted complete other member := by
    rcases List.mem_cons.mp member with rfl | among
    · exact sound
    · exact rest.warranted complete other among
  stops before other after shape contradicts := by
    cases before with
    | nil =>
      obtain ⟨rfl, rfl⟩ := List.cons.inj shape
      rcases sound with ⟨report, answer, completes⟩ | ⟨report, answer, waits⟩
      · exact absurd ((contradicts_iff answer).mp contradicts) completes.not_contradicts
      · exact absurd ((contradicts_iff answer).mp contradicts) waits.not_contradicts
    | cons first before =>
      exact rest.stops before other after (List.cons.inj shape).2 contradicts

/-- What follows a success is judged by itself. -/
theorem Candid.append (first : Candid turns none) (second : Candid later ending) :
    Candid (turns ++ later) ending := by
  have sound := first.warranted rfl
  clear first
  induction turns with
  | nil => exact second
  | cons turn turns ih =>
    exact (ih fun other member ↦ sound other (List.mem_cons_of_mem turn member)).cons
      (sound turn List.mem_cons_self)

/-- What comes last among exchanges ended as its answers warrant. -/
theorem Candid.of_append (candid : Candid (turns ++ later) ending) : Candid later ending where
  warranted complete turn member :=
    candid.warranted complete turn (List.mem_append_right turns member)
  stops before turn after shape := by
    apply candid.stops (turns ++ before) turn after
    rw [shape, List.append_assoc]

end Candid

end Turn

end DebugProbe
