import DebugProbe.Proofs.Link.Block
import DebugProbe.Proofs.Link.Reports
import Mathlib.Data.List.Basic

/-!
# Loops that retry after a WAIT

Batches and blocks go out by loops of one kind. A frame asks for accesses from some position on. If
all of them complete the loop goes on behind them; after a WAIT it goes on with the access that has
to wait, until one access got as many WAITs in a row as are borne; anything else ends it. The course
of such a loop bounds its frames, tells when it gives up, and shows what its success rests on.
-/

namespace DebugProbe

namespace Turn

/-- The exchanges of one command. -/
def ofCommand (command : Command) (turns : List Turn) : List Turn :=
  turns.filter fun turn ↦ turn.request.command = command

/-- Exchanges of other commands, which end as their answers warrant. -/
structure Apart (command : Command) (turns : List Turn) (ending : Option AccessError) : Prop where
  other : ∀ turn ∈ turns, turn.request.command ≠ command
  candid : Candid turns ending
  /-- WAITs run out only after an answer. -/
  exhausted : ending = some .retryExhausted → turns ≠ []
  /-- The command is not blamed for an answer to another one. -/
  blameless : ending ≠ some (.unexpectedAnswer command)

/-- The last exchange was one of the command, and left an access waiting once too often. -/
def GaveUp (command : Command) (turns : List Turn) (ending : Option AccessError) : Prop :=
  ending = some .retryExhausted ∧ ∃ turn ∈ turns.getLast?, turn.request.command = command

variable {command : Command} {turns later : List Turn} {turn : Turn}
  {ending : Option AccessError} {error : AccessError}

@[simp] theorem ofCommand_nil : ofCommand command [] = [] := rfl

theorem ofCommand_cons (isCommand : turn.request.command = command) :
    ofCommand command (turn :: turns) = turn :: ofCommand command turns :=
  List.filter_cons_of_pos (decide_eq_true isCommand)

@[simp] theorem ofCommand_append :
    ofCommand command (turns ++ later) = ofCommand command turns ++ ofCommand command later :=
  List.filter_append turns later

theorem ofCommand_eq_self (all : ∀ turn ∈ turns, turn.request.command = command) :
    ofCommand command turns = turns :=
  List.filter_eq_self.mpr fun turn member ↦ decide_eq_true (all turn member)

theorem mem_ofCommand :
    turn ∈ ofCommand command turns ↔ turn ∈ turns ∧ turn.request.command = command := by
  unfold ofCommand
  rw [List.mem_filter, decide_eq_true_eq]

theorem Apart.ofCommand_eq_nil (apart : Apart command turns ending) :
    ofCommand command turns = [] := by
  unfold ofCommand
  rw [List.filter_eq_nil_iff]
  exact fun turn member ↦ by rw [decide_eq_true_eq]; exact apart.other turn member

theorem apart_nil {ending : Option AccessError} (notExhausted : ending ≠ some .retryExhausted)
    (blameless : ending ≠ some (.unexpectedAnswer command)) : Apart command [] ending where
  other := List.forall_mem_nil _
  candid := candid_nil ending
  exhausted same := absurd same notExhausted
  blameless := blameless

/-- Exchanges may follow those that ended well. -/
theorem Apart.append (first : Apart command turns none) (second : Apart command later ending) :
    Apart command (turns ++ later) ending where
  other turn member :=
    (List.mem_append.mp member).elim (first.other turn) (second.other turn)
  candid := first.candid.append second.candid
  exhausted same := List.append_ne_nil_of_right_ne_nil turns (second.exhausted same)
  blameless := second.blameless

/-- An exchange of another command does not tell that the command gave up. -/
theorem Apart.not_gaveUp (apart : Apart command later ending) :
    ¬GaveUp command (turns ++ later) ending := by
  rintro ⟨exhausted, last, member, isCommand⟩
  rw [List.getLast?_append_of_ne_nil _ (apart.exhausted exhausted)] at member
  exact apart.other last (List.mem_of_getLast? member) isCommand

/-- What comes before does not matter for how it ended. -/
theorem gaveUp_append (some : later ≠ [] ∨ ending = none) :
    GaveUp command (turns ++ later) ending ↔ GaveUp command later ending := by
  rcases some with some | rfl
  · unfold GaveUp
    rw [List.getLast?_append_of_ne_nil _ some]
  · exact ⟨fun gaveUp ↦ (nomatch gaveUp.1), fun gaveUp ↦ (nomatch gaveUp.1)⟩

end Turn

open Turn (Apart GaveUp HasRow ofCommand waitMarks)

/-- A loop that puts accesses to the target in frames and goes on after a WAIT. -/
structure RetryLoop where
  /-- Number of accesses. -/
  size : Nat
  /-- The number of WAITs to one access in a row with which the loop gives up. -/
  limit : Nat
  /-- The command of its frames. -/
  command : Command
  /-- The request for accesses from a position on, the first of which got some WAITs in a row. -/
  request : (position waits : Nat) → Request
  /-- Whether a failure is believed that comes with the report that all accesses completed. -/
  trusting : Bool
  /-- What is exchanged between a WAIT and the next frame, and how that ends. -/
  aside : List Turn → Option AccessError → Prop
  limit_pos : 0 < limit
  command_eq : ∀ position waits, (request position waits).command = command
  asks_pos : ∀ {position} waits, position < size → 0 < (request position waits).accessCount
  asks_le : ∀ {position} waits, position < size →
    position + (request position waits).accessCount ≤ size
  aside_apart : ∀ {turns ending}, aside turns ending → Apart command turns ending

namespace RetryLoop

/-- A report of a failure that the loop takes for one. -/
def Believes (loop : RetryLoop) (report : AccessReport) : Prop :=
  report.count < report.asked ∨ loop.trusting = true ∧ report.count = report.asked

/-- How the last frame ends a loop whose next access got some WAITs in a row. -/
inductive Ends (loop : RetryLoop) (waits : Nat) (turn : Turn) : AccessError → Prop
  /-- There is no answer, or none that can be read. -/
  | lost (silent : turn.report? = none) (cause : ExchangeError) :
      Ends loop waits turn (.command (.exchange loop.command cause))
  /-- The answer is OK, but some accesses did not complete. -/
  | miscounted {report : AccessReport} (answer : turn.report? = some report)
      (ok : report.status.isOk = true) (short : report.count ≠ report.asked) :
      Ends loop waits turn (.unexpectedAnswer loop.command)
  | contradicted {report : AccessReport} (answer : turn.report? = some report)
      (contradicts : report.Contradicts) (doubts : loop.trusting = false) :
      Ends loop waits turn (.unexpectedAnswer loop.command)
  | failed {report : AccessReport} (answer : turn.report? = some report)
      (notOk : report.status.isOk = false) (notWait : ¬report.status.IsWait)
      (believed : loop.Believes report) {failure : AccessStatus}
      (kind : failure = .fault ∨ failure = .noResponse) : Ends loop waits turn (.ofStatus failure)
  | exhausted {report : AccessReport} (answer : turn.report? = some report)
      (wait : report.status.IsWait) (believed : loop.Believes report)
      (many : loop.limit ≤ Link.blockWaits waits report.count) :
      Ends loop waits turn .retryExhausted

/-- The exchanges of a loop from a position on, whose access there got some WAITs in a row, and the
error that ended it if not all accesses completed. -/
inductive Course (loop : RetryLoop) : (position waits : Nat) → List Turn → Option AccessError → Prop
  | all {position : Nat} (waits : Nat) (le : loop.size ≤ position) :
      Course loop position waits [] none
  | ends {position waits : Nat} {turn : Turn} {error : AccessError}
      (left : position < loop.size) (asks : turn.request = loop.request position waits)
      (ends : loop.Ends waits turn error) : Course loop position waits [turn] (some error)
  | completes {position waits : Nat} {turn : Turn} {report : AccessReport} {turns : List Turn}
      {ending : Option AccessError} (left : position < loop.size)
      (asks : turn.request = loop.request position waits) (answer : turn.report? = some report)
      (complete : report.Completes) (later : Course loop (position + report.count) 0 turns ending) :
      Course loop position waits (turn :: turns) ending
  | halts {position waits : Nat} {turn : Turn} {report : AccessReport} {aside : List Turn}
      {error : AccessError} (left : position < loop.size)
      (asks : turn.request = loop.request position waits) (answer : turn.report? = some report)
      (wait : report.status.IsWait) (believed : loop.Believes report)
      (few : Link.blockWaits waits report.count < loop.limit)
      (halted : loop.aside aside (some error)) :
      Course loop position waits (turn :: aside) (some error)
  | waits {position waits : Nat} {turn : Turn} {report : AccessReport} {aside turns : List Turn}
      {ending : Option AccessError} (left : position < loop.size)
      (asks : turn.request = loop.request position waits) (answer : turn.report? = some report)
      (wait : report.status.IsWait) (believed : loop.Believes report)
      (few : Link.blockWaits waits report.count < loop.limit) (prepared : loop.aside aside none)
      (later : Course loop (position + report.count) (Link.blockWaits waits report.count) turns
        ending) : Course loop position waits (turn :: (aside ++ turns)) ending

/-- Frames that ask for accesses, each from the position on that those before it left. -/
def Asks (loop : RetryLoop) : Nat → List Turn → Prop
  | _, [] => True
  | position, turn :: rest =>
    (∃ waits, turn.request = loop.request position waits) ∧
      Asks loop (position + turn.progress) rest

variable {loop : RetryLoop} {position waits : Nat} {turn : Turn} {turns : List Turn}
  {ending : Option AccessError} {error : AccessError} {report : AccessReport}

theorem isCommand_of_asks (asks : turn.request = loop.request position waits) :
    turn.request.command = loop.command := by
  rw [asks, loop.command_eq]

/-- The exchanges of the loop's own command, of which one was made before something else. -/
theorem ofCommand_aside (asks : turn.request = loop.request position waits) {aside : List Turn}
    {outcome : Option AccessError} (apart : loop.aside aside outcome) :
    ofCommand loop.command (turn :: (aside ++ turns)) = turn :: ofCommand loop.command turns := by
  rw [Turn.ofCommand_cons (isCommand_of_asks asks), Turn.ofCommand_append,
    (loop.aside_apart apart).ofCommand_eq_nil, List.nil_append]

theorem ofCommand_halted (asks : turn.request = loop.request position waits) {aside : List Turn}
    {outcome : Option AccessError} (apart : loop.aside aside outcome) :
    ofCommand loop.command (turn :: aside) = [turn] := by
  have only : ofCommand loop.command (turn :: (aside ++ [])) = [turn] := ofCommand_aside asks apart
  rwa [List.append_nil] at only

theorem ofCommand_singleton (asks : turn.request = loop.request position waits) :
    ofCommand loop.command [turn] = [turn] :=
  Turn.ofCommand_cons (isCommand_of_asks asks)

/-- A report that is believed is about no more than what is left. -/
theorem Believes.le (believed : loop.Believes report) : report.count ≤ report.asked :=
  believed.elim Nat.le_of_lt fun ⟨_, same⟩ ↦ Nat.le_of_eq same

theorem asked_pos (left : position < loop.size)
    (asks : turn.request = loop.request position waits) (answer : turn.report? = some report) :
    0 < report.asked := by
  rw [Turn.asked_of_report answer, asks]
  exact loop.asks_pos waits left

theorem asked_le (left : position < loop.size)
    (asks : turn.request = loop.request position waits) (answer : turn.report? = some report) :
    position + report.asked ≤ loop.size := by
  rw [Turn.asked_of_report answer, asks]
  exact loop.asks_le waits left

/-- A WAIT that is believed leaves an access waiting, unless it contradicts itself. -/
theorem Believes.leavesWaiting (believed : loop.Believes report) (wait : report.status.IsWait)
    (sound : loop.trusting = true → ¬report.Contradicts) : report.Waits := by
  rcases believed with short | ⟨trusting, same⟩
  · exact ⟨short, wait⟩
  · exact absurd ⟨same, wait.isOk⟩ (sound trusting)

/-- One more WAIT, or the first one behind some progress, adds to the row of WAITs. -/
private theorem hasRow_wait {size count : Nat} {marks : List (Option Nat)} (few : waits < size) :
    HasRow size (List.replicate waits (some position) ++ some (position + count) :: marks) ↔
      HasRow size
        (List.replicate (Link.blockWaits waits count) (some (position + count)) ++ marks) := by
  unfold Link.blockWaits
  split
  · next progress =>
    have other : some (position + count) ≠ some position := by
      intro same
      have := Option.some.inj same
      omega
    rw [Turn.hasRow_after few other]
    rfl
  · next none =>
    have same : count = 0 := Nat.eq_zero_of_not_pos none
    rw [same, Nat.add_zero, List.replicate_succ', List.append_assoc, List.singleton_append]

namespace Ends

variable (ends : loop.Ends waits turn error)
include ends

/-- A loop gives up with its last frame if that leaves an access waiting once too often. -/
theorem exhausted_or :
    (error = .retryExhausted ∧ ∃ report, turn.report? = some report ∧ report.status.IsWait ∧
      loop.Believes report ∧ loop.limit ≤ Link.blockWaits waits report.count) ∨
    (error ≠ .retryExhausted ∧ ¬turn.Waits) := by
  cases ends with
  | lost silent cause =>
    refine .inr ⟨nofun, ?_⟩
    rintro ⟨report, member, -⟩
    rw [silent] at member
    nomatch member
  | miscounted answer ok short =>
    refine .inr ⟨nofun, fun waits ↦ ?_⟩
    rw [((Turn.waits_iff answer).mp waits).2.isOk] at ok
    nomatch ok
  | contradicted answer contradicts doubts =>
    exact .inr ⟨nofun, fun waits ↦ ((Turn.waits_iff answer).mp waits).not_contradicts contradicts⟩
  | failed answer notOk notWait believed kind =>
    refine .inr ⟨?_, fun waits ↦ notWait ((Turn.waits_iff answer).mp waits).2⟩
    rcases kind with rfl | rfl
    · nofun
    · nofun
  | exhausted answer wait believed many => exact .inl ⟨rfl, _, answer, wait, believed, many⟩

/-- A frame that ends the loop did not complete. -/
theorem not_completes : ¬turn.Completes := by
  rintro ⟨report, answer, complete, isOk⟩
  have same {other : AccessReport} (reported : turn.report? = some other) : other = report :=
    Option.some.inj (reported.symm.trans answer)
  cases ends with
  | lost silent cause => nomatch silent.symm.trans answer
  | miscounted reported ok short => exact short (same reported ▸ complete)
  | contradicted reported contradicts doubts =>
    rw [same reported] at contradicts
    nomatch isOk.symm.trans contradicts.2
  | failed reported notOk notWait believed kind =>
    rw [same reported] at notOk
    nomatch isOk.symm.trans notOk
  | exhausted reported wait believed many =>
    rw [same reported] at wait
    nomatch isOk.symm.trans wait.isOk

/-- An answer that contradicts itself is an error, if it is not believed. -/
theorem of_contradicts (contradicts : turn.Contradicts) :
    error = .unexpectedAnswer loop.command ∧ loop.trusting = false ∨ loop.trusting = true := by
  cases ends with
  | lost silent cause => exact absurd contradicts (Turn.not_contradicts_of_none silent)
  | miscounted answer ok short =>
    exact absurd ((Turn.contradicts_iff answer).mp contradicts).1 short
  | contradicted answer contradicts doubts => exact .inl ⟨rfl, doubts⟩
  | failed answer notOk notWait believed kind =>
    rcases believed with short | ⟨trusting, -⟩
    · exact absurd ((Turn.contradicts_iff answer).mp contradicts).1 (Nat.ne_of_lt short)
    · exact .inr trusting
  | exhausted answer wait believed many =>
    rcases believed with short | ⟨trusting, -⟩
    · exact absurd ((Turn.contradicts_iff answer).mp contradicts).1 (Nat.ne_of_lt short)
    · exact .inr trusting

/-- A loop that believes answers that contradict themselves does not call them unexpected. -/
theorem ne_unexpectedAnswer (trusting : loop.trusting = true) (contradicts : turn.Contradicts) :
    error ≠ .unexpectedAnswer loop.command := by
  cases ends with
  | lost silent cause => exact absurd contradicts (Turn.not_contradicts_of_none silent)
  | miscounted answer ok short =>
    exact absurd ((Turn.contradicts_iff answer).mp contradicts).1 short
  | contradicted answer contradicts doubts => nomatch trusting.symm.trans doubts
  | failed answer notOk notWait believed kind =>
    rcases kind with rfl | rfl
    · nofun
    · nofun
  | exhausted => nofun

end Ends

namespace Course

/-- Nothing is exchanged once nothing is left. -/
theorem eq_nil_of_le (course : loop.Course position waits turns ending)
    (none : loop.size ≤ position) : turns = [] := by
  cases course with
  | all => rfl
  | ends left => omega
  | completes left => omega
  | halts left => omega
  | waits left => omega

/-- Without an exchange nothing failed. -/
theorem eq_none_of_nil (course : loop.Course position waits [] ending) : ending = none := by
  cases course
  rfl

/-- Frames that went out before some error are part of the course. -/
theorem ne_nil_of_error (course : loop.Course position waits turns (some error)) : turns ≠ [] := by
  rintro rfl
  nomatch course.eq_none_of_nil

/-- Each frame asks for accesses from the position on that those before it left. -/
theorem asks (course : loop.Course position waits turns ending) :
    loop.Asks position (ofCommand loop.command turns) := by
  induction course with
  | all waits le => trivial
  | ends left asks ends =>
    rw [ofCommand_singleton asks]
    exact ⟨⟨_, asks⟩, trivial⟩
  | completes left asks answer complete later ih =>
    rw [Turn.ofCommand_cons (isCommand_of_asks asks)]
    rw [← Turn.progress_of_report answer] at ih
    exact ⟨⟨_, asks⟩, ih⟩
  | halts left asks answer wait believed few halted =>
    rw [ofCommand_halted asks halted]
    exact ⟨⟨_, asks⟩, trivial⟩
  | waits left asks answer wait believed few prepared later ih =>
    rw [ofCommand_aside asks prepared]
    rw [← Turn.progress_of_report answer] at ih
    exact ⟨⟨_, asks⟩, ih⟩

/-- Progress makes up for all the WAITs that may follow it. -/
private theorem effort_of_progress (limit : Nat) {size position next : Nat}
    (more : position < next) (le : next ≤ size) :
    (size - next) * limit + limit ≤ (size - position) * limit := by
  rw [← Nat.succ_mul]
  exact Nat.mul_le_mul_right limit (by omega)

/-- One access may get all the WAITs. -/
private theorem limit_le_effort (left : position < loop.size) :
    loop.limit ≤ (loop.size - position) * loop.limit :=
  Nat.le_mul_of_pos_left loop.limit (Nat.sub_pos_of_lt left)

/-- A loop writes no more frames than each access may take, WAITs that came before counted in. -/
theorem length_le (course : loop.Course position waits turns ending)
    (left : position < loop.size) (few : waits < loop.limit) :
    (ofCommand loop.command turns).length + waits ≤ (loop.size - position) * loop.limit := by
  induction course with
  | all waits le => omega
  | ends left asks ends =>
    have effort := limit_le_effort left
    rw [ofCommand_singleton asks, List.length_singleton]
    omega
  | @completes position waits turn report turns ending left asks answer complete later ih =>
    have effort := limit_le_effort left
    have some := asked_pos left asks answer
    have le := asked_le left asks answer
    rw [← complete.1] at some le
    rw [Turn.ofCommand_cons (isCommand_of_asks asks), List.length_cons]
    by_cases more : position + report.count < loop.size
    · have after := ih more loop.limit_pos
      have gained := effort_of_progress loop.limit (Nat.lt_add_of_pos_right some) le
      omega
    · rw [later.eq_nil_of_le (Nat.le_of_not_lt more)]
      simp only [Turn.ofCommand_nil, List.length_nil]
      omega
  | halts left asks answer wait believed fewer halted =>
    have effort := limit_le_effort left
    rw [ofCommand_halted asks halted, List.length_singleton]
    omega
  | @waits position waits turn report aside turns ending left asks answer wait believed fewer
      prepared later ih =>
    have effort := limit_le_effort left
    have le := asked_le left asks answer
    have reported := believed.le
    rw [ofCommand_aside asks prepared, List.length_cons]
    by_cases more : position + report.count < loop.size
    · have after := ih more fewer
      unfold Link.blockWaits at after
      split at after
      · next some =>
        have gained := effort_of_progress loop.limit (Nat.lt_add_of_pos_right some)
          (Nat.le_of_lt more)
        omega
      · next none =>
        have same : report.count = 0 := Nat.eq_zero_of_not_pos none
        simp only [same, Nat.add_zero] at after
        omega
    · rw [later.eq_nil_of_le (Nat.le_of_not_lt more)]
      simp only [Turn.ofCommand_nil, List.length_nil]
      omega

/-- Once something went wrong the last exchange tells how it ended. -/
private theorem gaveUp_later (later : loop.Course position waits turns ending) (first : List Turn) :
    GaveUp loop.command (first ++ turns) ending ↔ GaveUp loop.command turns ending := by
  apply Turn.gaveUp_append
  cases ending with
  | none => exact .inr rfl
  | some error => exact .inl later.ne_nil_of_error

/-- A loop gives up exactly if one access got as many WAITs in a row as are borne, and no access
ever gets more. WAITs that the first access got before count in. -/
theorem hasRow_iff (course : loop.Course position waits turns ending) (few : waits < loop.limit)
    (sound : loop.trusting = true →
      ∀ turn ∈ ofCommand loop.command turns, ∀ report ∈ turn.report?, report.status.IsWait →
        ¬report.Contradicts)
    {size : Nat} (many : loop.limit ≤ size) :
    HasRow size (List.replicate waits (some position) ++
      waitMarks position (ofCommand loop.command turns)) ↔
        size = loop.limit ∧ GaveUp loop.command turns ending := by
  have positive := loop.limit_pos
  induction course with
  | all waits le =>
    rw [Turn.ofCommand_nil, waitMarks, List.append_nil, Turn.hasRow_replicate]
    exact ⟨fun le ↦ by omega, fun ⟨_, gaveUp⟩ ↦ (nomatch gaveUp.1)⟩
  | @ends position waits turn error left asks ends =>
    rw [ofCommand_singleton asks] at sound ⊢
    rw [waitMarks, waitMarks]
    rcases ends.exhausted_or with ⟨rfl, report, answer, wait, believed, exhausted⟩ | ⟨other, passes⟩
    · have isWait := believed.leavesWaiting wait fun trusting ↦
        sound trusting turn List.mem_cons_self report answer wait
      have within : Link.blockWaits waits report.count ≤ loop.limit := by
        unfold Link.blockWaits
        split <;> omega
      rw [Turn.waitMark_eq_some answer isWait, hasRow_wait (by omega), List.append_nil,
        Turn.hasRow_replicate]
      exact ⟨fun le ↦ ⟨by omega, rfl, turn, rfl, isCommand_of_asks asks⟩, fun ⟨same, _⟩ ↦ by omega⟩
    · rw [Turn.waitMark_eq_none passes,
        Turn.hasRow_after (by omega) (Option.some_ne_none position).symm,
        Turn.hasRow_none (by omega)]
      exact ⟨fun row ↦ absurd row (Turn.not_hasRow_nil (by omega)),
        fun ⟨_, gaveUp⟩ ↦ absurd (Option.some.inj gaveUp.1) other⟩
  | @completes position waits turn report turns ending left asks answer complete later ih =>
    have passes : ¬turn.Waits := mt (Turn.waits_iff answer).mp complete.not_waits
    rw [Turn.ofCommand_cons (isCommand_of_asks asks)] at sound ⊢
    have after := ih positive fun trusting other member ↦
      sound trusting other (List.mem_cons_of_mem turn member)
    rw [waitMarks, Turn.waitMark_eq_none passes, Turn.progress_of_report answer,
      Turn.hasRow_after (by omega) (Option.some_ne_none position).symm, Turn.hasRow_none (by omega)]
    rw [List.replicate_zero, List.nil_append] at after
    exact after.trans (and_congr_right fun _ ↦ (gaveUp_later later [turn]).symm)
  | @halts position waits turn report aside error left asks answer wait believed fewer halted =>
    rw [ofCommand_halted asks halted] at sound ⊢
    have isWait := believed.leavesWaiting wait fun trusting ↦
      sound trusting turn List.mem_cons_self report answer wait
    have notGaveUp : ¬GaveUp loop.command ([turn] ++ aside) (some error) :=
      (loop.aside_apart halted).not_gaveUp
    rw [waitMarks, waitMarks, Turn.waitMark_eq_some answer isWait, hasRow_wait (by omega),
      List.append_nil, Turn.hasRow_replicate]
    exact ⟨fun le ↦ by omega, fun ⟨_, gaveUp⟩ ↦ absurd gaveUp notGaveUp⟩
  | @waits position waits turn report aside turns ending left asks answer wait believed fewer
      prepared later ih =>
    rw [ofCommand_aside asks prepared] at sound ⊢
    have isWait := believed.leavesWaiting wait fun trusting ↦
      sound trusting turn List.mem_cons_self report answer wait
    have after := ih fewer fun trusting other member ↦
      sound trusting other (List.mem_cons_of_mem turn member)
    rw [waitMarks, Turn.waitMark_eq_some answer isWait, Turn.progress_of_report answer,
      hasRow_wait (by omega)]
    exact after.trans (and_congr_right fun _ ↦ (gaveUp_later later (turn :: aside)).symm)

/-- A loop ends as its answers warrant, if it does not believe one that contradicts itself or there
is none. -/
theorem candid (course : loop.Course position waits turns ending)
    (sound : loop.trusting = true →
      ∀ turn ∈ ofCommand loop.command turns, ¬turn.Contradicts) : Turn.Candid turns ending := by
  induction course with
  | all waits le => exact Turn.candid_nil none
  | @ends position waits turn error left asks ends =>
    rw [ofCommand_singleton asks] at sound
    apply Turn.candid_singleton
    intro contradicts
    rw [isCommand_of_asks asks]
    rcases ends.of_contradicts contradicts with ⟨unexpected, -⟩ | trusting
    · exact unexpected
    · exact absurd contradicts (sound trusting turn List.mem_cons_self)
  | @completes position waits turn report turns ending left asks answer complete later ih =>
    rw [Turn.ofCommand_cons (isCommand_of_asks asks)] at sound
    have rest := ih fun trusting other member ↦
      sound trusting other (List.mem_cons_of_mem turn member)
    exact rest.cons (.inl ⟨report, answer, complete⟩)
  | @halts position waits turn report aside error left asks answer wait believed fewer halted =>
    rw [ofCommand_halted asks halted] at sound
    have isWait := believed.leavesWaiting wait fun trusting contradicts ↦
      sound trusting turn List.mem_cons_self ((Turn.contradicts_iff answer).mpr contradicts)
    exact (loop.aside_apart halted).candid.cons (.inr ⟨report, answer, isWait⟩)
  | @waits position waits turn report aside turns ending left asks answer wait believed fewer
      prepared later ih =>
    rw [ofCommand_aside asks prepared] at sound
    have isWait := believed.leavesWaiting wait fun trusting contradicts ↦
      sound trusting turn List.mem_cons_self ((Turn.contradicts_iff answer).mpr contradicts)
    have rest := ih fun trusting other member ↦
      sound trusting other (List.mem_cons_of_mem turn member)
    exact ((loop.aside_apart prepared).candid.append rest).cons (.inr ⟨report, answer, isWait⟩)

/-- A loop that believes answers that contradict themselves never ends with one as it should. -/
private theorem last_not_contradicts (course : loop.Course position waits turns ending)
    (trusting : loop.trusting = true) (unexpected : ending = some (.unexpectedAnswer loop.command))
    {last : Turn} (isLast : turns.getLast? = some last) : ¬last.Contradicts := by
  induction course with
  | all waits le => nomatch unexpected
  | ends left asks ends =>
    obtain rfl := Option.some.inj isLast
    exact fun contradicts ↦
      ends.ne_unexpectedAnswer trusting contradicts (Option.some.inj unexpected)
  | @completes position waits turn report turns ending left asks answer complete later ih =>
    subst unexpected
    rw [← List.singleton_append, List.getLast?_append_of_ne_nil _ later.ne_nil_of_error] at isLast
    exact ih rfl isLast
  | halts left asks answer wait believed fewer halted =>
    exact absurd unexpected (loop.aside_apart halted).blameless
  | @waits position waits turn report aside turns ending left asks answer wait believed fewer
      prepared later ih =>
    subst unexpected
    rw [← List.cons_append, List.getLast?_append_of_ne_nil _ later.ne_nil_of_error] at isLast
    exact ih rfl isLast

/-- A loop that believes answers that contradict themselves ends as its answers warrant only if
there is none. -/
theorem not_contradicts (course : loop.Course position waits turns ending)
    (trusting : loop.trusting = true) (candid : Turn.Candid turns ending) :
    ∀ turn ∈ ofCommand loop.command turns, ¬turn.Contradicts := by
  intro turn member contradicts
  obtain ⟨among, isCommand⟩ := Turn.mem_ofCommand.mp member
  obtain ⟨before, after, rfl⟩ := List.append_of_mem among
  obtain ⟨rfl, unexpected⟩ := candid.stops before turn after rfl contradicts
  rw [isCommand] at unexpected
  exact course.last_not_contradicts trusting unexpected List.getLast?_concat contradicts

/-- Where nothing that fails comes between, the last frame tells how a loop failed. -/
theorem exists_ends (course : loop.Course position waits turns (some error))
    (still : ∀ aside error, ¬loop.aside aside (some error)) :
    ∃ turn waits, turns.getLast? = some turn ∧ turn.request.command = loop.command ∧
      loop.Ends waits turn error := by
  generalize shape : some error = ending at course
  induction course with
  | all waits le => nomatch shape
  | @ends position waits turn error left asks ends =>
    obtain rfl := Option.some.inj shape
    exact ⟨turn, waits, rfl, isCommand_of_asks asks, ends⟩
  | @completes position waits turn report turns ending left asks answer complete later ih =>
    subst shape
    rw [← List.singleton_append, List.getLast?_append_of_ne_nil _ later.ne_nil_of_error]
    exact ih rfl
  | halts left asks answer wait believed fewer halted => exact absurd halted (still _ _)
  | @waits position waits turn report aside turns ending left asks answer wait believed fewer
      prepared later ih =>
    subst shape
    rw [← List.cons_append, List.getLast?_append_of_ne_nil _ later.ne_nil_of_error]
    exact ih rfl

/-- Where nothing comes between, all exchanges are of the loop's own command. -/
theorem isCommand (course : loop.Course position waits turns ending)
    (still : ∀ aside outcome, loop.aside aside outcome → aside = []) :
    ∀ turn ∈ turns, turn.request.command = loop.command := by
  induction course with
  | all waits le => exact List.forall_mem_nil _
  | ends left asks ends => exact List.forall_mem_singleton.mpr (isCommand_of_asks asks)
  | completes left asks answer complete later ih =>
    exact List.forall_mem_cons.mpr ⟨isCommand_of_asks asks, ih⟩
  | halts left asks answer wait believed fewer halted =>
    rw [still _ _ halted]
    exact List.forall_mem_singleton.mpr (isCommand_of_asks asks)
  | waits left asks answer wait believed fewer prepared later ih =>
    rw [still _ _ prepared, List.nil_append]
    exact List.forall_mem_cons.mpr ⟨isCommand_of_asks asks, ih⟩

/-- Where nothing comes between and answers that contradict themselves are errors, a loop completes
exactly if each frame completed or stopped at an access that has to wait, and none of these had to
wait too often. -/
theorem eq_none_iff (course : loop.Course position waits turns ending) (few : waits < loop.limit)
    (doubts : loop.trusting = false) (still : ∀ aside error, ¬loop.aside aside (some error)) :
    ending = none ↔
      (∀ turn ∈ ofCommand loop.command turns, turn.Completes ∨ turn.Waits) ∧
        ¬HasRow loop.limit (List.replicate waits (some position) ++
          waitMarks position (ofCommand loop.command turns)) := by
  have never {motive : Prop} (trusting : loop.trusting = true) : motive :=
    (nomatch doubts.symm.trans trusting)
  rw [course.hasRow_iff few never (Nat.le_refl _)]
  constructor
  · rintro rfl
    exact ⟨fun turn member ↦ (course.candid never).warranted rfl turn
      (Turn.mem_ofCommand.mp member).1, fun ⟨_, gaveUp⟩ ↦ (nomatch gaveUp.1)⟩
  · rintro ⟨sound, fine⟩
    cases ending with
    | none => rfl
    | some error =>
      obtain ⟨turn, waits, isLast, isCommand, ends⟩ := course.exists_ends still
      have among := Turn.mem_ofCommand.mpr ⟨List.mem_of_getLast? isLast, isCommand⟩
      have waiting := (sound turn among).resolve_left ends.not_completes
      rcases ends.exhausted_or with ⟨rfl, -⟩ | ⟨-, passes⟩
      · exact absurd ⟨rfl, rfl, turn, isLast, isCommand⟩ fine
      · exact absurd waiting passes

end Course

end RetryLoop

end DebugProbe
