import DebugProbe.Proofs.Link.Patience
import DebugProbe.Proofs.Simulator.Truthful

/-!
# Simulated targets that answer in time

A simulated target answers in time if WAIT is all that was prepared besides OK, and was not prepared
too often.
-/

namespace DebugProbe

namespace Target

/-- Accesses may have to wait, less than `limit` times in all, and are not refused otherwise. -/
structure Calm (limit : Nat) (target : Target) : Prop where
  sticky : target.sticky = false
  answers : ∀ answer ∈ target.answers, answer = .ok ∨ answer = .wait
  few : target.answers.count .wait < limit

/-- A simulated target that is calm. -/
def calmModel (limit : Nat) : TargetModel Target where
  completes := model.completes
  refuses transfer code target next := model.refuses transfer code target next ∧ target.Calm limit
  breaks := False

/-- An answer that is taken is gone. -/
private theorem answers_takeAnswer (target : Target) :
    target.takeAnswer.2.answers = target.answers.tail := by
  unfold takeAnswer
  split
  · next none => rw [none, List.tail_nil]
  · next answer rest some => rw [some, List.tail_cons]

private theorem sticky_takeAnswer (target : Target) :
    target.takeAnswer.2.sticky = target.sticky := by
  unfold takeAnswer
  split <;> rfl

/-- The answers that remain are left alone by all that the target does, and the sticky flag is not
set. -/
private theorem undisturbed_perform (transfer : Transfer) (target : Target) :
    (perform transfer target).2.answers = target.answers ∧
      (target.sticky = false → (perform transfer target).2.sticky = false) := by
  have advances (target : Target) :
      target.advance.answers = target.answers ∧ target.advance.sticky = target.sticky := by
    unfold advance
    split <;> exact ⟨rfl, rfl⟩
  have stores (value : UInt32) :
      (target.store value).answers = target.answers ∧
        (target.store value).sticky = target.sticky := by
    unfold store
    split <;> exact ⟨rfl, rfl⟩
  rcases transfer with ⟨_ | _, address, _ | value⟩
  · exact ⟨rfl, id⟩
  · show (target.writeDebug _ value).answers = _ ∧ (_ → (target.writeDebug _ value).sticky = _)
    unfold writeDebug
    split
    · refine ⟨rfl, fun clear ↦ ?_⟩
      show (target.sticky && _) = false
      rw [clear, Bool.false_and]
    · split
      · exact ⟨rfl, id⟩
      · split <;> exact ⟨rfl, id⟩
  · show (target.readAccess _).2.answers = _ ∧ (_ → (target.readAccess _).2.sticky = _)
    unfold readAccess
    dsimp only
    split
    · exact ⟨rfl, id⟩
    · split
      · exact ⟨rfl, id⟩
      · split
        · exact ⟨(advances target).1, (advances target).2.trans⟩
        · split <;> exact ⟨rfl, id⟩
  · show (target.writeAccess _ value).answers = _ ∧ (_ → (target.writeAccess _ value).sticky = _)
    unfold writeAccess
    dsimp only
    split
    · exact ⟨rfl, id⟩
    · split
      · exact ⟨rfl, id⟩
      · split
        · have after := advances (target.store value)
          exact ⟨after.1.trans (stores value).1, (after.2.trans (stores value).2).trans⟩
        · exact ⟨rfl, id⟩

/-- An access that is carried out takes an answer. -/
private theorem answers_of_completes {transfer : Transfer} {word : Option UInt32}
    {target next : Target} (step : model.completes transfer word target next) :
    next.answers = target.answers.tail ∧ (target.sticky = false → next.sticky = false) := by
  have performed := perform_of_access step
  obtain ⟨answers, sticky⟩ := undisturbed_perform transfer target.takeAnswer.2
  rw [performed] at answers sticky
  refine ⟨answers.trans (answers_takeAnswer target), fun clear ↦ sticky ?_⟩
  rw [sticky_takeAnswer]
  exact clear

/-- A calm target refuses an access by the next WAIT that was prepared. -/
private theorem Calm.of_refuses {limit : Nat} {transfer : Transfer} {code : UInt8}
    {target next : Target} (calm : target.Calm limit)
    (step : model.refuses transfer code target next) :
    code = 0x02 ∧ target.answers = .wait :: next.answers ∧ next.sticky = false := by
  have refused : (access transfer).outcome target = (.error code, next) := step
  unfold access takeAnswer at refused
  rw [Action.outcome_ofFun] at refused
  cases prepared : target.answers with
  | nil =>
    rw [prepared] at refused
    dsimp only [TargetAnswer.failureCode?] at refused
    rw [if_neg (by rw [calm.sticky]; nofun)] at refused
    nomatch refused
  | cons answer rest =>
    rw [prepared] at refused
    rcases calm.answers answer (by rw [prepared]; exact List.mem_cons_self) with rfl | rfl
    · dsimp only [TargetAnswer.failureCode?] at refused
      rw [if_neg (by rw [calm.sticky]; nofun)] at refused
      nomatch refused
    · dsimp only [TargetAnswer.failureCode?] at refused
      injection refused with value after
      injection value with value
      refine ⟨value.symm, ?_, ?_⟩
      · rw [← after]
      · rw [← after]
        show (target.sticky || _) = false
        rw [calm.sticky]
        rfl

/-- With answers less a target is as calm as before. -/
private theorem Calm.tail {limit : Nat} {target next : Target} (calm : target.Calm limit)
    (sticky : next.sticky = false) (answers : next.answers = target.answers.tail) :
    next.Calm limit := by
  have sub : next.answers.Sublist target.answers := by
    rw [answers]
    exact List.tail_sublist _
  exact ⟨sticky, fun answer member ↦ calm.answers answer (sub.subset member),
    Nat.lt_of_le_of_lt (sub.count_le _) calm.few⟩

/-- A calm target answers as a calm one, and stays calm. -/
theorem Calm.answers_calm {limit : Nat} {transfers : List Transfer} {target last : Target}
    {data : List (Option UInt32)} {code : UInt8} (calm : target.Calm limit)
    (answers : model.Answers transfers target data code last) :
    (calmModel limit).Answers transfers target data code last ∧ last.Calm limit := by
  induction answers with
  | all success => exact ⟨.all success, calm⟩
  | refused failure step =>
    obtain ⟨-, prepared, sticky⟩ := calm.of_refuses step
    exact ⟨.refused failure ⟨step, calm⟩, calm.tail sticky (by rw [prepared, List.tail_cons])⟩
  | completed kind step later ih =>
    obtain ⟨taken, sticky⟩ := answers_of_completes step
    obtain ⟨others, after⟩ := ih (calm.tail (sticky calm.sticky) taken)
    exact ⟨.completed kind step others, after⟩

/-- Number of WAITs that were used up, if `limit` of them were one too many. -/
def spentWaits (limit : Nat) (target : Target) : Nat := limit - 1 - target.answers.count .wait

/-- A calm target answers in time. -/
theorem patient (limit : Nat) :
    (calmModel limit).Patient limit fun _ target ↦ target.spentWaits limit where
  unbroken := id
  refuses := by
    rintro transfer code target next ⟨step, calm⟩
    obtain ⟨rfl, prepared, -⟩ := calm.of_refuses step
    have few := calm.few
    rw [prepared, List.count_cons_self] at few
    unfold spentWaits
    rw [prepared, List.count_cons_self]
    refine ⟨⟨rfl, rfl⟩, ?_, ?_, fun _ ↦ ?_⟩
    · omega
    · omega
    · omega
  completes := by
    intro transfer word target next step place _
    have fewer := (List.tail_sublist target.answers).count_le .wait
    rw [← (answers_of_completes step).1] at fewer
    unfold spentWaits
    omega

end Target

/-- In front of a calm target a probe that is truthful about it shows that it is calm. -/
theorem TruthfulProbe.calm {σ : Type} [Transport σ] {view : σ → Target} {ready : σ → Prop}
    (probe : TruthfulProbe Target.model view ready ready) (limit : Nat) :
    TruthfulProbe (Target.calmModel limit) view
      (fun transport ↦ ready transport ∧ (view transport).Calm limit)
      (fun transport ↦ ready transport ∧ (view transport).Calm limit) := by
  constructor
  rintro transport frame ⟨isReady, calm⟩ isAccess
  refine (probe.converse isReady isAccess).imp ?_ ?_
  · rintro reply next (⟨isReady, size, data, status, padding, answers, same⟩ | ⟨breaks, -⟩)
    · obtain ⟨answers, after⟩ := calm.answers_calm answers
      exact .inl ⟨⟨isReady, after⟩, size, data, status, padding, answers, same⟩
    · exact breaks.elim
  · rintro _ next ⟨breaks, -⟩
    exact breaks.elim

namespace Simulator

/-- Frames can be exchanged, and the target is calm. -/
def Calm (limit : Nat) (simulator : Simulator) : Prop :=
  simulator.Idle ∧ simulator.target.Calm limit

/-- In front of a calm target the simulated probe shows that the target is calm. -/
theorem truthful_calm (limit : Nat) : TruthfulProbe (Target.calmModel limit) Simulator.target
    (Calm limit) (Calm limit) := truthful.calm limit

end Simulator

end DebugProbe
