import DebugProbe.Proofs.Link.Attempts
import DebugProbe.Proofs.Simulator.Select

/-!
# The simulated probe with a log of attempts

With a log of every access that is put to its target, the simulated probe is truthful about the
attempts at accesses.
-/

namespace DebugProbe

namespace Target

/-- The attempts at accesses, up to the first one that the target refuses. -/
def attempts : List Transfer → Target → List Attempt
  | [], _ => []
  | transfer :: rest, target =>
    match (access transfer).outcome target with
    | (.ok word, next) => ⟨transfer, target.select, .ok word⟩ :: attempts rest next
    | (.error code, _) => [⟨transfer, target.select, .error code⟩]

/-- What the target answers is what the log grows by. -/
theorem answers_attempts {transfers : List Transfer} {target last : Target}
    {data : List (Option UInt32)} {code : UInt8}
    (answers : model.Answers transfers target data code last) (log : List Attempt) :
    AttemptLog.model.Answers transfers ⟨target.select, log⟩ data code
      ⟨last.select, log ++ attempts transfers target⟩ := by
  induction answers generalizing log with
  | all success =>
    rw [attempts, List.append_nil]
    exact .all success
  | refused failure step =>
    rw [attempts, step, tracks.refuses step]
    exact .refused failure rfl
  | @completed transfer rest target next last word data code kind step later ih =>
    have others := ih (log ++ [⟨transfer, target.select, .ok word⟩])
    rw [tracks.completes step] at others
    rw [attempts, step]
    dsimp only
    rw [List.append_cons]
    exact .completed kind rfl others

end Target

/-- A simulated probe with a log of the accesses that were put to its target. -/
structure Watched where
  simulator : Simulator
  log : List Attempt := []

namespace Watched

/-- What was tried, and what SELECT holds now. -/
def view (watched : Watched) : AttemptLog := ⟨watched.simulator.target.select, watched.log⟩

/-- The next frame is exchanged as it should be. -/
def Idle (watched : Watched) : Prop := watched.simulator.Idle

instance : Transport Watched where
  write frame := Action.update fun watched ↦ {
    simulator := watched.simulator.receive frame
    log := watched.log ++ Target.attempts (Frame.accesses frame) watched.simulator.target }
  read :=
    Action.within simulator (fun simulator watched ↦ { watched with simulator }) Transport.read
  drain watched := { watched with simulator := Transport.drain watched.simulator }
  packetSize watched := Transport.packetSize watched.simulator
  setPacketSize size watched :=
    { watched with simulator := Transport.setPacketSize size watched.simulator }
  polls time pause watched := Transport.polls time pause watched.simulator

/-- The watched probe is truthful about the attempts at accesses. -/
theorem truthful : TruthfulProbe AttemptLog.model view Idle Idle := by
  constructor
  intro watched frame idle isAccess
  obtain ⟨data, status, target, answers, received⟩ :=
    Simulator.receive_of_isAccess isAccess idle
  unfold Probe.converse Probe.packetSize
  simp only [Action.yields_bind, Action.yields_get, Action.yields_pure, Transport.write,
    Action.yields_update, received, Transport.read, Action.yields_within]
  refine .inl ⟨⟨rfl, idle.2⟩, rfl, data, status, [], Target.answers_attempts answers _, ?_⟩
  rw [List.append_nil]
  rfl

end Watched

end DebugProbe
