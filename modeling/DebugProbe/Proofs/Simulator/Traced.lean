import DebugProbe.Proofs.Probe.Steady
import DebugProbe.Proofs.Simulator.Select

/-!
# The simulated probe is steady

With a record of the accesses that its target carried out, the simulated probe is steady: what
SELECT held at each of them is known, and no other command changes it.
-/

namespace DebugProbe

open SelectTrace (Quiet Unasked)

/-- An access that a target carried out, with the word that a read gave and what SELECT held. -/
structure CarriedAccess where
  transfer : Transfer
  word : Option UInt32
  held : UInt32

namespace CarriedAccess

/-- What was carried out, and what came of it. -/
def event (carried : CarriedAccess) : AccessEvent := (carried.transfer, carried.word)

/-- What was carried out, and what SELECT held meanwhile. -/
def selected (carried : CarriedAccess) : Transfer × UInt32 := (carried.transfer, carried.held)

end CarriedAccess

namespace Target

/-- The accesses that a target carries out. -/
def carried : List Transfer → Target → List CarriedAccess
  | [], _ => []
  | transfer :: rest, target =>
    match (access transfer).outcome target with
    | (.ok word, next) => ⟨transfer, word, target.select⟩ :: carried rest next
    | (.error _, _) => []

/-- What the target answers is what the trace of the target allows. -/
theorem answers_selected {transfers : List Transfer} {target last : Target}
    {data : List (Option UInt32)} {code : UInt8}
    (answers : model.Answers transfers target data code last) (log : List (Transfer × UInt32)) :
    SelectTrace.model.Answers transfers ⟨target.select, log⟩ data code
      ⟨last.select, log ++ (carried transfers target).map CarriedAccess.selected⟩ := by
  induction answers generalizing log with
  | all success =>
    rw [carried, List.map_nil, List.append_nil]
    exact .all success
  | refused failure step =>
    rw [carried, step, tracks.refuses step]
    refine .refused failure ?_
    rw [List.map_nil, List.append_nil]
    rfl
  | @completed transfer rest target next last word data code kind step later ih =>
    have others := ih (log ++ [(transfer, target.select)])
    rw [tracks.completes step] at others
    rw [carried, step]
    dsimp only
    rw [List.map_cons, List.append_cons]
    exact .completed kind rfl others

/-- What the target answers is what the record of the target grows by. -/
theorem answers_events {transfers : List Transfer} {target last : Target}
    {data : List (Option UInt32)} {code : UInt8}
    (answers : model.Answers transfers target data code last) (log : List AccessEvent) :
    TargetModel.recording.Answers transfers log data code
      (log ++ (carried transfers target).map CarriedAccess.event) := by
  induction answers generalizing log with
  | all success =>
    rw [carried, List.map_nil, List.append_nil]
    exact .all success
  | refused failure step =>
    rw [carried, step]
    refine .refused failure ?_
    rw [List.map_nil, List.append_nil]
    rfl
  | @completed transfer rest target next last word data code kind step later ih =>
    rw [carried, step]
    dsimp only
    rw [List.map_cons, List.append_cons]
    exact .completed kind rfl (ih (log ++ [(transfer, word)]))

end Target

/-- A simulated probe with a record of the accesses that its target carried out. -/
structure Traced where
  simulator : Simulator
  log : List CarriedAccess := []

namespace Traced

/-- What was carried out while SELECT held what, and what SELECT holds now. -/
def trace (traced : Traced) : SelectTrace :=
  ⟨traced.simulator.target.select, traced.log.map CarriedAccess.selected⟩

/-- What was carried out and what reads gave. -/
def events (traced : Traced) : List AccessEvent := traced.log.map CarriedAccess.event

/-- The next frame is exchanged as it should be. -/
def Idle (traced : Traced) : Prop := traced.simulator.Idle

instance : Transport Traced where
  write frame := Action.update fun traced ↦ {
    simulator := traced.simulator.receive frame
    log := traced.log ++ Target.carried (Frame.accesses frame) traced.simulator.target }
  read := Action.within simulator (fun simulator traced ↦ { traced with simulator }) Transport.read
  drain traced := { traced with simulator := Transport.drain traced.simulator }
  packetSize traced := Transport.packetSize traced.simulator
  setPacketSize size traced :=
    { traced with simulator := Transport.setPacketSize size traced.simulator }
  polls time pause traced := Transport.polls time pause traced.simulator

/-- The recorded probe is truthful about all that can be told from the record. -/
private theorem truthful_of {τ : Type} {model : TargetModel τ} {view : Traced → τ}
    (follows : ∀ {traced next : Traced} {transfers : List Transfer} {data : List (Option UInt32)}
      {code : UInt8},
      Target.model.Answers transfers traced.simulator.target data code next.simulator.target →
      next.log = traced.log ++ Target.carried transfers traced.simulator.target →
      model.Answers transfers (view traced) data code (view next)) :
    TruthfulProbe model view Idle Idle := by
  constructor
  intro traced frame idle isAccess
  obtain ⟨data, status, target, answers, received⟩ :=
    Simulator.receive_of_isAccess isAccess idle
  unfold Probe.converse Probe.packetSize
  simp only [Action.yields_bind, Action.yields_get, Action.yields_pure, Transport.write,
    Action.yields_update, received, Transport.read, Action.yields_within]
  refine .inl ⟨⟨rfl, idle.2⟩, rfl, data, status, [], follows answers rfl, ?_⟩
  rw [List.append_nil]
  rfl

/-- The recorded probe is truthful about its target. -/
theorem truthful_target :
    TruthfulProbe Target.model (fun traced ↦ traced.simulator.target) Idle Idle :=
  truthful_of fun answers _ ↦ answers

/-- The recorded probe is truthful about SELECT. -/
theorem truthful : TruthfulProbe SelectTrace.model trace Idle Idle := by
  refine truthful_of fun {traced next} _ _ _ answers kept ↦ ?_
  unfold trace
  rw [kept, List.map_append]
  exact Target.answers_selected answers _

/-- The recorded probe is truthful about what is carried out. -/
theorem truthful_events : TruthfulProbe .recording events Idle Idle := by
  refine truthful_of fun {traced next} _ _ _ answers kept ↦ ?_
  unfold events
  rw [kept, List.map_append]
  exact Target.answers_events answers _

end Traced

namespace Simulator

/-- Answers are given as before, and SELECT holds what it held. -/
def Unmoved (simulator after : Simulator) : Prop :=
  after.pending = simulator.pending ∧ after.silent = simulator.silent ∧
    after.corruptNext = simulator.corruptNext ∧ after.target.select = simulator.target.select

private theorem unmoved_ite {simulator : Simulator} {condition : Prop} [Decidable condition]
    {yes no : Option Bytes × Simulator} (onYes : condition → simulator.Unmoved yes.2)
    (onNo : simulator.Unmoved no.2) : simulator.Unmoved (if condition then yes else no).2 := by
  split
  · next holds => exact onYes holds
  · exact onNo

/-- A command that is not an access does not concern SELECT. -/
theorem respond_unmoved {code : UInt8} (other : ¬(code = 0x05 ∨ code = 0x06))
    (simulator : Simulator) (body : Bytes) :
    simulator.Unmoved (simulator.respond code body).2 := by
  unfold respond
  repeat' refine unmoved_ite (fun is ↦ ?_) ?_
  all_goals try exact ⟨rfl, rfl, rfl, rfl⟩
  · exact absurd (.inl is) other
  · exact absurd (.inr is) other

/-- A command that is not an access leaves one answer at most. -/
theorem receive_other {frame : Bytes} (other : ¬Frame.IsAccess frame) {simulator : Simulator}
    (idle : simulator.Idle) :
    (simulator.receive frame).pending.length ≤ 1 ∧
      (simulator.receive frame).silent = false ∧
      (simulator.receive frame).corruptNext = false ∧
      (simulator.receive frame).target.select = simulator.target.select := by
  obtain ⟨empty, speaks, sound⟩ := idle
  obtain ⟨pending, silent, corrupt, select⟩ := respond_unmoved other
    { simulator with codes := simulator.codes.push (frame.byteAt 0) } (frame.drop 1)
  unfold receive
  dsimp only
  rw [if_neg (by rw [speaks]; nofun)]
  split
  · next after answered =>
    rw [answered] at pending silent corrupt select
    dsimp only at pending silent corrupt select
    rw [pending, empty]
    exact ⟨Nat.zero_le 1, silent.trans speaks, corrupt.trans sound, select⟩
  · next answer after answered =>
    rw [answered] at pending silent corrupt select
    dsimp only at pending silent corrupt select
    rw [if_neg (by rw [corrupt, sound]; nofun)]
    dsimp only
    rw [pending, empty]
    exact ⟨Nat.le_refl 1, silent.trans speaks, corrupt.trans sound, select⟩

end Simulator

namespace Traced

/-- Frames that are not accesses carry none out. -/
private theorem carried_other {frame : Bytes} (other : ¬Frame.IsAccess frame) (target : Target) :
    Target.carried (Frame.accesses frame) target = [] := by
  have none : Frame.accesses frame = [] := by
    unfold Frame.accesses
    rw [if_neg fun is ↦ other (.inl is), if_neg fun is ↦ other (.inr is)]
  rw [none]
  rfl

/-- Commands that are not accesses leave the record and SELECT alone. -/
private theorem keeps_converse {frame : Bytes} (other : ¬Frame.IsAccess frame)
    (trace : SelectTrace) :
    (Probe.converse frame).Keeps (Quiet Traced.trace Idle trace)
      (Quiet Traced.trace Idle trace) := by
  rintro traced ⟨idle, rfl⟩
  obtain ⟨few, silent, corrupt, select⟩ := Simulator.receive_other other idle
  unfold Probe.converse Probe.packetSize
  simp only [Action.yields_bind, Action.yields_get, Action.yields_pure, Transport.write,
    Action.yields_update, Transport.read, Action.yields_within, carried_other other,
    List.append_nil]
  unfold Action.Yields
  rw [Action.outcome_ofFun]
  cases answers : (traced.simulator.receive frame).pending with
  | nil =>
    refine ⟨⟨answers, silent, corrupt⟩, ?_⟩
    exact congrArg (SelectTrace.mk · (traced.log.map CarriedAccess.selected)) select
  | cons answer rest =>
    rw [answers] at few
    obtain rfl := List.eq_nil_of_length_eq_zero (Nat.le_zero.mp (Nat.le_of_succ_le_succ few))
    refine ⟨⟨rfl, silent, corrupt⟩, ?_⟩
    exact congrArg (SelectTrace.mk · (traced.log.map CarriedAccess.selected)) select

/-- The recorded probe is steady. -/
theorem steady : SteadyProbe trace Idle where
  truthful := truthful
  command other _ trace := keeps_converse other trace
  sequence := by
    rintro frame isSequence trace traced ⟨idle, log⟩
    have other : ¬Frame.IsAccess frame := by
      rintro (is | is) <;> rcases isSequence with code | code <;>
        exact absurd (is.symm.trans code) (by decide)
    refine (keeps_converse other traced.trace traced ⟨idle, rfl⟩).imp ?_ ?_
    · rintro _ next ⟨idle, same⟩
      exact ⟨idle, (congrArg SelectTrace.log same).trans log⟩
    · rintro _ next ⟨idle, same⟩
      exact ⟨idle, (congrArg SelectTrace.log same).trans log⟩
  abort := by
    rintro trace traced ⟨idle, rfl⟩
    have received : traced.simulator.receive (Request.frame .transferAbort) =
        { traced.simulator with codes := traced.simulator.codes.push 0x07 } := by
      unfold Simulator.receive
      dsimp only
      rw [if_neg (by rw [idle.2.1]; nofun)]
      rfl
    simp only [Transport.write, Action.yields_update, received]
    refine ⟨idle, ?_⟩
    exact congrArg
      (fun log ↦ SelectTrace.mk traced.simulator.target.select (log.map CarriedAccess.selected))
      (List.append_nil traced.log)
  drain := by
    rintro trace traced ⟨⟨-, ready⟩, same⟩
    exact ⟨⟨rfl, ready⟩, same⟩
  setPacketSize := by
    rintro trace traced size ⟨idle, same⟩
    exact ⟨idle, same⟩

end Traced

end DebugProbe
