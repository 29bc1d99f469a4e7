import DebugProbe.Proofs.Probe.Truthful

/-!
# The simulated probe is truthful

The simulated probe puts the accesses of a frame to its target one after the other and answers with
a report of exactly that.
-/

namespace DebugProbe

namespace Target

/-- A simulated target as a model: what it does to an access is what the model allows. -/
def model : TargetModel Target where
  completes transfer word target next := (access transfer).outcome target = (.ok word, next)
  refuses transfer code target next := (access transfer).outcome target = (.error code, next)
  breaks := False

private theorem failureCode_not_ok {answer : TargetAnswer} {code : UInt8}
    (failure : TargetAnswer.failureCode? answer = some code) :
    (TransferStatus.ofByte code).isOk = false := by
  cases answer with
  | ok => nomatch failure
  | wait => obtain rfl := Option.some.inj failure; rfl
  | fault => obtain rfl := Option.some.inj failure; rfl
  | noAck => obtain rfl := Option.some.inj failure; rfl
  | parity => obtain rfl := Option.some.inj failure; rfl

/-- An access that is carried out is performed once its answer is taken. -/
theorem perform_of_access {transfer : Transfer} {target next : Target} {word : Option UInt32}
    (carried : (access transfer).outcome target = (.ok word, next)) :
    perform transfer target.takeAnswer.2 = (word, next) := by
  unfold access at carried
  rw [Action.outcome_ofFun] at carried
  dsimp only at carried
  split at carried
  · nomatch carried
  · split at carried
    · nomatch carried
    · injection carried with value after
      injection value with value
      exact Prod.ext value after

/-- An access that is not carried out is not answered OK, and changes at most the sticky flag. -/
theorem refused_of_access {transfer : Transfer} {target next : Target} {code : UInt8}
    (refused : (access transfer).outcome target = (.error code, next)) :
    (TransferStatus.ofByte code).isOk = false ∧
      next = { target.takeAnswer.2 with sticky := next.sticky } := by
  unfold access at refused
  rw [Action.outcome_ofFun] at refused
  dsimp only at refused
  split at refused
  · next failure answered =>
    injection refused with value after
    injection value with value
    rw [← value, ← after]
    exact ⟨failureCode_not_ok answered, rfl⟩
  · split at refused
    · injection refused with value after
      injection value with value
      rw [← value, ← after]
      exact ⟨rfl, rfl⟩
    · nomatch refused

/-- Exactly the reads give words. -/
theorem isSome_of_access {transfer : Transfer} {target next : Target} {word : Option UInt32}
    (carried : (access transfer).outcome target = (.ok word, next)) :
    word.isSome = transfer.isRead := by
  have same := congrArg (fun result ↦ result.1.isSome) (perform_of_access carried)
  rw [← same]
  rcases transfer with ⟨_ | _, address, _ | value⟩ <;> rfl

end Target

namespace Simulator

/-- What comes back from accesses is what became of them. -/
theorem answers_accesses (transfers : List Transfer) (target : Target) :
    ∃ data, Target.model.Answers transfers target data
        (accesses transfers target).1.2.1 (accesses transfers target).2 ∧
      (accesses transfers target).1.1 = data.length ∧
      (accesses transfers target).1.2.2 = data.filterMap id := by
  induction transfers generalizing target with
  | nil =>
    have success : (TransferStatus.ofByte 0x01).isOk = true := rfl
    exact ⟨[], .all success, rfl, rfl⟩
  | cons transfer rest ih =>
    unfold accesses
    rcases outcome : (Target.access transfer).outcome target with ⟨code | word, next⟩
    · exact ⟨[], .refused (Target.refused_of_access outcome).1 outcome, rfl, rfl⟩
    · obtain ⟨data, answers, count, words⟩ := ih next
      refine ⟨word :: data, .completed (Target.isSome_of_access outcome) outcome answers, ?_, ?_⟩
      · exact congrArg Nat.succ count
      · cases word with
        | none => exact words
        | some word => exact congrArg (word :: ·) words

/-- No answer waits, and the next one is sent as it is. -/
def Idle (simulator : Simulator) : Prop :=
  simulator.pending = [] ∧ simulator.silent = false ∧ simulator.corruptNext = false

private theorem byteAt_drop (bytes : Bytes) (first position : Nat) :
    Bytes.byteAt (bytes.drop first) position = bytes.byteAt (first + position) := by
  unfold Bytes.byteAt
  rw [List.getD_eq_getElem?_getD, List.getD_eq_getElem?_getD, List.getElem?_drop]

private theorem respond_transfer (simulator : Simulator) (body : Bytes) :
    simulator.respond 0x05 body =
      let ((done, status, words), target) :=
        accesses (readTransfers (body.byteAt 1).toNat (body.drop 2)) simulator.target
      (some (0x05 :: UInt8.ofNat done :: status :: Bytes.ofWords words),
        { simulator with target }) := rfl

private theorem respond_block (simulator : Simulator) (body : Bytes) :
    simulator.respond 0x06 body =
      let ((done, status, words), target) :=
        accesses (readBlock (body.byteAt 3) (body.uint16At 1).toNat (body.drop 4))
          simulator.target
      (some (0x06 :: (Bytes.ofNumber 2 done ++ status :: Bytes.ofWords words)),
        { simulator with target }) := rfl

/-- A frame of accesses is answered by a report on them. -/
theorem respond_of_isAccess {frame : Bytes} (isAccess : Frame.IsAccess frame)
    (simulator : Simulator) :
    ∃ data status target,
      Target.model.Answers (Frame.accesses frame) simulator.target data status target ∧
      simulator.respond (frame.byteAt 0) (frame.drop 1) =
        (some (Frame.report frame data status), { simulator with target }) := by
  obtain ⟨data, answers, count, words⟩ :=
    answers_accesses (Frame.accesses frame) simulator.target
  refine ⟨data, _, _, answers, ?_⟩
  rcases isAccess with code | code
  · have entries : Frame.accesses frame =
        readTransfers (Bytes.byteAt (frame.drop 1) 1).toNat ((frame.drop 1).drop 2) := by
      unfold Frame.accesses
      rw [if_pos code, byteAt_drop, List.drop_drop]
    rw [code, respond_transfer, ← entries]
    unfold Frame.report
    rw [if_pos code, ← count, ← words]
  · have other : frame.byteAt 0 ≠ 0x05 := by
      rw [code]
      decide
    have entries : Frame.accesses frame =
        readBlock (Bytes.byteAt (frame.drop 1) 3) (Bytes.uint16At (frame.drop 1) 1).toNat
          ((frame.drop 1).drop 4) := by
      unfold Frame.accesses Bytes.uint16At
      rw [if_neg other, if_pos code, byteAt_drop, List.drop_drop, List.drop_drop]
    rw [code, respond_block, ← entries]
    unfold Frame.report
    rw [if_neg other, ← count, ← words]

/-- An idle probe takes a frame of accesses in and queues the report on them. -/
theorem receive_of_isAccess {frame : Bytes} (isAccess : Frame.IsAccess frame)
    {simulator : Simulator} (idle : simulator.Idle) :
    ∃ data status target,
      Target.model.Answers (Frame.accesses frame) simulator.target data status target ∧
      simulator.receive frame = { simulator with
        codes := simulator.codes.push (frame.byteAt 0)
        target
        pending := [Frame.report frame data status] } := by
  obtain ⟨empty, speaks, sound⟩ := idle
  obtain ⟨data, status, target, answers, answered⟩ := respond_of_isAccess isAccess
    { simulator with codes := simulator.codes.push (frame.byteAt 0) }
  refine ⟨data, status, target, answers, ?_⟩
  unfold receive
  dsimp only
  rw [if_neg (by rw [speaks]; nofun), answered]
  dsimp only
  rw [if_neg (by rw [sound]; nofun), empty]
  rfl

/-- The simulated probe is truthful as long as it answers at all. -/
theorem truthful : TruthfulProbe Target.model Simulator.target Idle Idle := by
  constructor
  intro simulator frame idle isAccess
  obtain ⟨data, status, target, answers, received⟩ := receive_of_isAccess isAccess idle
  unfold Probe.converse Probe.packetSize
  simp only [Action.yields_bind, Action.yields_get, Action.yields_pure, Transport.write,
    Action.yields_update, received, Transport.read]
  exact .inl ⟨⟨rfl, idle.2⟩, rfl, data, status, [], answers, by rw [List.append_nil]; rfl⟩

end Simulator

end DebugProbe
