import DebugProbe.Proofs.Probe.Truthful

/-!
# Obliging targets

An obliging target answers every access OK, and what a read gives depends on nothing but the
accesses that were carried out so far. So the accesses that are put to it determine all of its
answers, and a probe in front of it never breaks off.
-/

namespace DebugProbe

namespace TargetModel

variable (answer : List Transfer → UInt32)

/-- A target that carries out whatever is asked for, as a record of what it carried out; a read
gives the word that belongs to the record with the read. -/
def obliging : TargetModel (List Transfer) where
  completes transfer word log next :=
    next = log ++ [transfer] ∧ word = if transfer.isRead then some (answer next) else none
  refuses _ _ _ _ := False
  breaks := False

/-- The words of an obliging target, one for each access. -/
def words (log : List Transfer) : List Transfer → List (Option UInt32)
  | [] => []
  | transfer :: rest =>
    (if transfer.isRead then some (answer (log ++ [transfer])) else none) ::
      words (log ++ [transfer]) rest

variable {answer} {log last first second transfers : List Transfer}

@[simp] theorem length_words : (words answer log transfers).length = transfers.length := by
  induction transfers generalizing log with
  | nil => rfl
  | cons transfer rest ih => exact congrArg Nat.succ ih

/-- Accesses that are put to the target in two goes are answered as in one. -/
theorem words_append :
    words answer log (first ++ second) =
      words answer log first ++ words answer (log ++ first) second := by
  induction first generalizing log with
  | nil => rw [List.append_nil]; rfl
  | cons transfer rest ih =>
    rw [List.cons_append, words, words, ih, List.append_assoc, List.cons_append]
    rfl

/-- An obliging target carries out all accesses of a frame. -/
theorem answers_obliging {data : List (Option UInt32)} {code : UInt8}
    (answers : (obliging answer).Answers transfers log data code last) :
    data = words answer log transfers ∧ last = log ++ transfers := by
  induction answers with
  | all success => exact ⟨rfl, (List.append_nil _).symm⟩
  | refused failure step => exact step.elim
  | completed kind step later ih =>
    obtain ⟨rfl, rfl⟩ := step
    obtain ⟨rfl, rfl⟩ := ih
    exact ⟨rfl, List.append_assoc _ _ _⟩

/-- Every list of accesses is answered by an obliging target. -/
theorem obliging_answers (answer : List Transfer → UInt32) (log transfers : List Transfer) :
    (obliging answer).Answers transfers log (words answer log transfers) 0x01
      (log ++ transfers) := by
  induction transfers generalizing log with
  | nil =>
    rw [List.append_nil]
    exact .all rfl
  | cons transfer rest ih =>
    have later := ih (log ++ [transfer])
    rw [List.append_assoc] at later
    refine .completed ?_ ⟨rfl, rfl⟩ later
    cases transfer.isRead with
    | true => rfl
    | false => rfl

end TargetModel

open TargetModel (obliging words)

/-- A probe in front of an obliging target: what the target carried out, and the answer to the last
frame. -/
structure Obliging (answer : List Transfer → UInt32) where
  log : List Transfer := []
  reply : Bytes := []

namespace Obliging

variable {answer : List Transfer → UInt32}

instance : Transport (Obliging answer) where
  write frame := Action.update fun probe ↦ {
    log := probe.log ++ Frame.accesses frame
    reply := Frame.report frame (words answer probe.log (Frame.accesses frame)) 0x01 }
  read := Action.ofFun fun probe ↦ (.ok probe.reply, probe)
  drain probe := probe
  packetSize _ := 64
  setPacketSize _ probe := probe

/-- The probe puts every access to the target and reports what came of it. -/
theorem truthful (answer : List Transfer → UInt32) :
    TruthfulProbe (obliging answer) (fun probe : Obliging answer ↦ probe.log) (fun _ ↦ True)
      fun _ ↦ False := by
  constructor
  intro probe frame _ isAccess
  unfold Probe.converse Probe.packetSize
  simp only [Action.yields_bind, Action.yields_get, Action.yields_pure, Transport.write,
    Action.yields_update, Transport.read]
  refine .inl ⟨trivial, rfl, _, 0x01, [], TargetModel.obliging_answers answer _ _, ?_⟩
  rw [List.append_nil]
  rfl

end Obliging

end DebugProbe
