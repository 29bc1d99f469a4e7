import DebugProbe.Link.Batch
import DebugProbe.Proofs.Probe.Truthful

/-!
# Responses to a batch

A batch is carried out up to some entry. The responses to it say so: the accesses up to that entry
get the words that were read, the first one after it gets the reason, all others were not tried.
-/

namespace DebugProbe

/-- The entry as firmware reads it from a frame. -/
def BatchEntry.wire (entry : BatchEntry) : Transfer := entry.transfer.onWire

/-- An access that is OK has its value as the result. -/
theorem AccessResponse.result_of_ok {response : AccessResponse} (ok : response.status = .ok) :
    response.result = .ok response.value := by
  unfold result
  rw [ok]

/-- An access that is not OK has a failure as the result. -/
theorem AccessResponse.result_of_not_ok {response : AccessResponse}
    (notOk : response.status ≠ .ok) : response.result = .error (.ofStatus response.status) := by
  unfold result
  cases status : response.status with
  | ok => exact absurd status notOk
  | fault => rfl
  | noResponse => rfl
  | retryExhausted => rfl
  | aborted => rfl

/-- What SELECT holds after some entries and then some more. -/
theorem selectAfter_append (select : Option Select) (first second : List BatchEntry) :
    selectAfter select (first ++ second) = selectAfter (selectAfter select first) second :=
  List.foldl_append

namespace Batch

@[simp] theorem completed_nil (entries : List BatchEntry) : completed entries [] = [] := by
  unfold completed
  rw [List.zip_nil_right, List.filterMap_nil]

/-- An entry without origin has no response. -/
theorem completed_cons (entry : BatchEntry) (rest : List BatchEntry) (word : Option UInt32)
    (data : List (Option UInt32)) :
    completed (entry :: rest) (word :: data) =
      (entry.origin.map fun index ↦ ⟨index, .ok, word⟩).toList ++ completed rest data := by
  unfold completed
  rw [List.zip_cons_cons, List.filterMap_cons]
  dsimp only
  cases entry.origin with
  | none => rfl
  | some index => rfl

/-- Responses to a batch that is carried out in two goes are put together. -/
theorem completed_append {entries : List BatchEntry} {data : List (Option UInt32)}
    (le : data.length ≤ entries.length) (later : List (Option UInt32)) :
    completed entries (data ++ later) =
      completed entries data ++ completed (entries.drop data.length) later := by
  induction data generalizing entries with
  | nil => simp
  | cons word data ih =>
    cases entries with
    | nil => simp at le
    | cons entry rest =>
      rw [List.cons_append, completed_cons, completed_cons, ih (Nat.le_of_succ_le_succ le),
        List.append_assoc]
      rfl

/-- Entries that did not complete make no difference. -/
theorem completed_take (entries : List BatchEntry) (data : List (Option UInt32)) :
    completed (entries.take data.length) data = completed entries data := by
  induction data generalizing entries with
  | nil => simp
  | cons word data ih =>
    cases entries with
    | nil => rfl
    | cons entry rest =>
      rw [List.length_cons, List.take_succ_cons, completed_cons, completed_cons, ih]

/-- Each access that completed has one response. -/
theorem index_completed (entries : List BatchEntry) (data : List (Option UInt32)) :
    (completed entries data).map AccessResponse.index =
      (entries.take data.length).filterMap BatchEntry.origin := by
  induction data generalizing entries with
  | nil => simp
  | cons word data ih =>
    cases entries with
    | nil => rfl
    | cons entry rest =>
      rw [completed_cons, List.map_append, ih, List.length_cons, List.take_succ_cons,
        List.filterMap_cons]
      cases entry.origin with
      | none => rfl
      | some index => rfl

/-- Accesses that completed are answered OK. -/
theorem status_completed {entries : List BatchEntry} {data : List (Option UInt32)}
    {response : AccessResponse} (member : response ∈ completed entries data) :
    response.status = .ok := by
  unfold completed at member
  obtain ⟨⟨entry, word⟩, -, mapped⟩ := List.mem_filterMap.mp member
  obtain ⟨index, -, rfl⟩ := Option.map_eq_some_iff.mp mapped
  rfl

/-- Each access that did not complete has one response. -/
theorem index_failed (failure : AccessStatus) (entries : List BatchEntry) :
    (failed failure entries).map AccessResponse.index =
      entries.filterMap BatchEntry.origin := by
  unfold failed
  cases entries.filterMap BatchEntry.origin with
  | nil => rfl
  | cons first rest =>
    rw [List.map_cons, List.map_map]
    exact congrArg (first :: ·) (List.map_id'' (fun _ ↦ rfl) rest)

/-- The first access that did not complete gets the reason, all others were not tried. -/
theorem status_failed (failure : AccessStatus) (entries : List BatchEntry) :
    (failed failure entries).map AccessResponse.status =
      match entries.filterMap BatchEntry.origin with
      | [] => []
      | _ :: rest => failure :: List.replicate rest.length .aborted := by
  unfold failed
  cases entries.filterMap BatchEntry.origin with
  | nil => rfl
  | cons first rest =>
    rw [List.map_cons, List.map_map]
    exact congrArg (failure :: ·) List.map_const'

/-- Accesses that did not complete are not answered OK. -/
theorem status_failed_ne_ok {failure : AccessStatus} (bad : failure ≠ .ok)
    {entries : List BatchEntry} {response : AccessResponse}
    (member : response ∈ failed failure entries) : response.status ≠ .ok := by
  have status := List.mem_map_of_mem (f := AccessResponse.status) member
  rw [status_failed] at status
  split at status
  · nomatch status
  · rcases List.mem_cons.mp status with same | later
    · rw [same]
      exact bad
    · rw [List.eq_of_mem_replicate later]
      nofun

/-- Accesses that did not complete have no value. -/
theorem value_failed {failure : AccessStatus} {entries : List BatchEntry}
    {response : AccessResponse} (member : response ∈ failed failure entries) :
    response.value = none := by
  unfold failed at member
  split at member
  · nomatch member
  · rcases List.mem_cons.mp member with rfl | later
    · rfl
    · obtain ⟨index, -, rfl⟩ := List.mem_map.mp later
      rfl

private theorem size_sublist {part all : List Transfer} (sublist : part.Sublist all) :
    (part.map Transfer.size).foldr (· + ·) 0 ≤ (all.map Transfer.size).foldr (· + ·) 0 := by
  induction sublist with
  | slnil => exact Nat.le_refl _
  | cons transfer _ ih => exact Nat.le_trans ih (Nat.le_add_left _ _)
  | cons_cons transfer _ ih => exact Nat.add_le_add_left ih _

/-- A batch fits into a packet exactly if its request and the answer to it do. -/
theorem fits_iff {entries : List BatchEntry} {packetSize : Nat} (dapIndex : UInt8) :
    fits entries packetSize = true ↔
      (TransferRequest.ofEntries dapIndex entries).Fits packetSize := by
  unfold fits TransferRequest.Fits
  rw [Bool.and_eq_true, Bool.and_eq_true, decide_eq_true_eq, decide_eq_true_eq,
    decide_eq_true_eq, and_assoc]
  exact Iff.rfl

/-- Part of a batch that fits into a packet fits as well. -/
theorem fits_sublist {part all : List BatchEntry} {packetSize : Nat} (sublist : part.Sublist all)
    (whole : fits all packetSize = true) : fits part packetSize = true := by
  have wires : (part.map BatchEntry.transfer).Sublist (all.map BatchEntry.transfer) :=
    sublist.map _
  rw [fits_iff 0] at whole ⊢
  refine ⟨Nat.le_trans wires.length_le whole.1, Nat.le_trans ?_ whole.2.1,
    Nat.le_trans ?_ whole.2.2⟩
  · exact Nat.add_le_add_left (size_sublist wires) 3
  · exact Nat.add_le_add_left (Nat.mul_le_mul_left 4 wires.countP_le) 3

end Batch

namespace TargetModel

variable {τ : Type} {model : TargetModel τ}

/-- The first entries were carried out, as many as there are words, in order and each once. -/
def CarriesEntries (model : TargetModel τ) (entries : List BatchEntry) (state : τ)
    (data : List (Option UInt32)) (next : τ) : Prop :=
  data.length ≤ entries.length ∧
    model.Carries ((entries.take data.length).map BatchEntry.wire) state data next

/-- What is left of a batch is carried out after what went before. -/
theorem CarriesEntries.append {entries : List BatchEntry} {state middle last : τ}
    {data later : List (Option UInt32)} (first : model.CarriesEntries entries state data middle)
    (second : model.CarriesEntries (entries.drop data.length) middle later last) :
    model.CarriesEntries entries state (data ++ later) last := by
  have bound := second.1
  rw [List.length_drop] at bound
  constructor
  · rw [List.length_append]
    have := first.1
    omega
  · rw [List.length_append, List.take_add, List.map_append]
    exact first.2.append second.2

end TargetModel

end DebugProbe
