import DebugProbe.Proofs.Probe.Frames
import Mathlib.Tactic.Common

/-!
# The grammar of the answers to accesses

An answer to a transfer request is a count, a status byte and a word for each read among the
accesses that completed; one to a block request has a count of two bytes, and words only where the
block is read. Bytes may follow. An answer is read exactly if it has this form, and what is read is
told by the place of each access alone: the word of a read stands behind those of the reads before
it.
-/

namespace DebugProbe

/-- Two bytes are those of the number that they are read as. -/
theorem Bytes.ofUInt16_uint16At (low high : UInt8) :
    ofUInt16 (uint16At [low, high] 0) = [low, high] := by
  have small : number [low, high] < UInt16.size := number_lt_capacity [low, high]
  show ofNumber 2 (UInt16.ofNat (number [low, high])).toNat = [low, high]
  rw [UInt16.toNat_ofNat_of_lt' small]
  exact ofNumber_number [low, high]

/-- The words that begin one after the other. -/
theorem Bytes.words_eq_map (count : Nat) (bytes : Bytes) :
    bytes.words count = (List.range count).map fun index ↦ bytes.uint32At (4 * index) := by
  induction count generalizing bytes with
  | zero => rfl
  | succ count ih =>
    have later (index : Nat) : Bytes.uint32At (bytes.drop 4) (4 * index) =
        bytes.uint32At (4 * (index + 1)) := by
      unfold uint32At
      rw [List.drop_drop, Nat.mul_succ, Nat.add_comm]
    rw [words, ih, List.range_succ_eq_map, List.map_cons, List.map_map]
    simp only [later]
    rfl

/-- A frame is read exactly if it begins with the code of the command, has the bytes that every
answer has, and is read behind the code. -/
theorem Request.decode_eq_ok_iff {request : Request} {frame : Bytes} {reply : request.Response} :
    request.decode frame = .ok reply ↔
      ∃ payload, frame = request.command.code :: payload ∧
        request.minReplyLength ≤ payload.length ∧ request.parse payload = .ok reply := by
  constructor
  · intro decoded
    obtain ⟨code, payload, rfl, long, parsed⟩ := parse_of_decode decoded
    refine ⟨payload, ?_, long, parsed⟩
    by_contra other
    have differs : code ≠ request.command.code := fun same ↦ other (by rw [same])
    rw [decode, if_pos differs] at decoded
    nomatch decoded
  · rintro ⟨payload, rfl, long, parsed⟩
    rw [decode, if_neg (not_not_intro rfl), requireLength_eq_ok_iff.mpr long]
    exact parsed

namespace TransferRequest

/-- The items of an answer, one for each access that completed: nothing for a write, and for a read
the word behind those of the reads before it. -/
def itemsAt (payload : Bytes) (position : Nat) (completed : List Transfer) :
    List (Option UInt32) :=
  completed.mapIdx fun index transfer ↦
    if transfer.isRead then
      some (payload.uint32At (position + 4 * (completed.take index).countP Transfer.isRead))
    else none

private theorem itemsAt_read {payload : Bytes} {position : Nat} {transfer : Transfer}
    (isRead : transfer.isRead = true) (rest : List Transfer) :
    itemsAt payload position (transfer :: rest) =
      some (payload.uint32At position) :: itemsAt payload (position + 4) rest := by
  have shifted (index : Nat) :
      position + 4 * ((transfer :: rest).take (index + 1)).countP Transfer.isRead =
        position + 4 + 4 * (rest.take index).countP Transfer.isRead := by
    rw [List.take_succ_cons, List.countP_cons_of_pos isRead]
    omega
  unfold itemsAt
  simp only [List.mapIdx_cons, shifted, isRead]
  rfl

private theorem itemsAt_write {payload : Bytes} {position : Nat} {transfer : Transfer}
    (isWrite : transfer.isRead = false) (rest : List Transfer) :
    itemsAt payload position (transfer :: rest) = none :: itemsAt payload position rest := by
  have same (index : Nat) : ((transfer :: rest).take (index + 1)).countP Transfer.isRead =
      (rest.take index).countP Transfer.isRead := by
    rw [List.take_succ_cons, List.countP_cons_of_neg (by simp [isWrite])]
  unfold itemsAt
  simp only [List.mapIdx_cons, same, isWrite]
  rfl

/-- Where there is a word for each read, the walk over the completed accesses finds the items. -/
theorem readData_itemsAt {payload : Bytes} {completed : List Transfer} {position : Nat}
    (room : position + 4 * completed.countP Transfer.isRead ≤ payload.length) :
    readData payload completed position = .ok (itemsAt payload position completed) := by
  induction completed generalizing position with
  | nil => rfl
  | cons transfer rest ih =>
    unfold readData
    cases isRead : transfer.isRead with
    | true =>
      rw [List.countP_cons_of_pos isRead] at room
      have here : position + 4 ≤ payload.length := by omega
      rw [if_pos rfl, requireLength_eq_ok_iff.mpr here, itemsAt_read isRead]
      simp only [bind, Except.bind, ih (by omega : position + 4 + _ ≤ _)]
      rfl
    | false =>
      rw [List.countP_cons_of_neg (by simp [isRead])] at room
      rw [if_neg Bool.false_ne_true, itemsAt_write isRead]
      simp only [bind, Except.bind, ih room]
      rfl

/-- The walk finds the items exactly if there is a word for each read. -/
theorem readData_eq_ok_iff {payload : Bytes} {completed : List Transfer} {position : Nat}
    {data : List (Option UInt32)} (start : position ≤ payload.length) :
    readData payload completed position = .ok data ↔
      position + 4 * completed.countP Transfer.isRead ≤ payload.length ∧
        data = itemsAt payload position completed := by
  constructor
  · intro read
    have room := Frame.length_of_readData start read
    refine ⟨room, ?_⟩
    rw [readData_itemsAt room] at read
    exact (Except.ok.inj read).symm
  · rintro ⟨room, rfl⟩
    exact readData_itemsAt room

/-- What an answer tells: the count, the status byte, and an item for each access that completed. -/
def told (request : TransferRequest) (count status : UInt8) (words : Bytes) : TransferReply :=
  ⟨count.toNat, .ofByte status, itemsAt words 0 (request.transfers.take count.toNat)⟩

/-- The request allows the count, and there is a word for each read that completed. -/
def Allows (request : TransferRequest) (count : UInt8) (words : Bytes) : Prop :=
  count.toNat ≤ request.transfers.length ∧
    4 * (request.transfers.take count.toNat).countP Transfer.isRead ≤ words.length

/-- The answer with a word for each read that completed. -/
def answer (count status : UInt8) (data : List (Option UInt32)) : Bytes :=
  0x05 :: count :: status :: Bytes.ofWords (data.filterMap id)

private theorem itemsAt_header (count status : UInt8) (words : Bytes) (completed : List Transfer) :
    itemsAt (count :: status :: words) 2 completed = itemsAt words 0 completed := by
  have behind (index : Nat) : Bytes.uint32At (count :: status :: words) (2 + 4 * index) =
      words.uint32At (0 + 4 * index) := by
    rw [Nat.add_comm, Nat.zero_add]
    rfl
  unfold itemsAt
  simp only [behind]

/-- What follows the code of an answer is read exactly if the request allows it. -/
theorem parse_eq_ok_iff {request : TransferRequest} {count status : UInt8} {words : Bytes}
    {reply : TransferReply} :
    request.parse (count :: status :: words) = .ok reply ↔
      request.Allows count words ∧ reply = request.told count status words := by
  by_cases le : count.toNat ≤ request.transfers.length
  · have parsed : request.parse (count :: status :: words) =
        (readData (count :: status :: words) (request.transfers.take count.toNat) 2).map
          fun data ↦ ⟨count.toNat, .ofByte status, data⟩ := Frame.parse_transfer le
    have length : (count :: status :: words).length = words.length + 2 := rfl
    rw [parsed]
    constructor
    · intro decoded
      cases read : readData (count :: status :: words) (request.transfers.take count.toNat) 2 with
      | error error =>
        rw [read] at decoded
        nomatch decoded
      | ok data =>
        obtain ⟨room, rfl⟩ := (readData_eq_ok_iff (by omega)).mp read
        rw [read, itemsAt_header] at decoded
        exact ⟨⟨le, by omega⟩, (Except.ok.inj decoded).symm⟩
    · rintro ⟨⟨-, room⟩, rfl⟩
      rw [readData_itemsAt (by omega), itemsAt_header]
      rfl
  · refine ⟨fun decoded ↦ ?_, fun allowed ↦ absurd allowed.1.1 le⟩
    have large : request.transfers.length < (Bytes.byteAt (count :: status :: words) 0).toNat :=
      Nat.lt_of_not_le le
    rw [parse, if_pos large] at decoded
    nomatch decoded

end TransferRequest

namespace BlockRequest

/-- What an answer tells: the count, the status byte and, of a block that is read, as many words. -/
def told (request : BlockRequest) (count : UInt16) (status : UInt8) (words : Bytes) : BlockReply :=
  ⟨count.toNat, .ofByte status,
    if request.access.isRead then
      (List.range count.toNat).map fun index ↦ words.uint32At (4 * index)
    else []⟩

/-- The request allows the count, and the words of a block that is read are there. -/
def Allows (request : BlockRequest) (count : UInt16) (words : Bytes) : Prop :=
  count.toNat ≤ request.access.count.toNat ∧
    (request.access.isRead = true → 4 * count.toNat ≤ words.length)

/-- The answer with the words of a block that is read. -/
def answer (count : UInt16) (status : UInt8) (words : List UInt32) : Bytes :=
  0x06 :: (Bytes.ofUInt16 count ++ status :: Bytes.ofWords words)

/-- What follows the code of an answer is read exactly if the request allows it. -/
theorem parse_eq_ok_iff {request : BlockRequest} {count : UInt16} {status : UInt8} {words : Bytes}
    {reply : BlockReply} :
    request.parse (Bytes.ofUInt16 count ++ status :: words) = .ok reply ↔
      request.Allows count words ∧ reply = request.told count status words := by
  have header : Bytes.uint16At (Bytes.ofUInt16 count ++ status :: words) 0 = count :=
    Bytes.uint16At_ofUInt16_append count _
  have third : Bytes.byteAt (Bytes.ofUInt16 count ++ status :: words) 2 = status := rfl
  have behind : (Bytes.ofUInt16 count ++ status :: words).drop 3 = words := rfl
  have length : (Bytes.ofUInt16 count ++ status :: words).length = words.length + 3 := rfl
  unfold parse told Allows
  rw [header, third, behind]
  by_cases le : count.toNat ≤ request.access.count.toNat
  · rw [if_neg (Nat.not_lt.mpr le)]
    cases isRead : request.access.isRead with
    | false =>
      refine ⟨fun decoded ↦ ⟨⟨le, nofun⟩, (Except.ok.inj decoded).symm⟩, ?_⟩
      rintro ⟨-, rfl⟩
      rfl
    | true =>
      rw [if_pos rfl, if_pos rfl, Bytes.words_eq_map]
      by_cases room : 3 + 4 * count.toNat ≤ (Bytes.ofUInt16 count ++ status :: words).length
      · rw [requireLength_eq_ok_iff.mpr room]
        refine ⟨fun decoded ↦ ⟨⟨le, fun _ ↦ by omega⟩, (Except.ok.inj decoded).symm⟩, ?_⟩
        rintro ⟨-, rfl⟩
        rfl
      · refine ⟨fun decoded ↦ ?_, fun allowed ↦ absurd (allowed.1.2 rfl) (by omega)⟩
        rw [requireLength, if_pos (Nat.lt_of_not_le room)] at decoded
        cases decoded
  · refine ⟨fun decoded ↦ ?_, fun allowed ↦ absurd allowed.1.1 le⟩
    rw [if_pos (Nat.lt_of_not_le le)] at decoded
    cases decoded

end BlockRequest

namespace Request

/-- An answer to a transfer request is read exactly if it has the form of one. -/
theorem decode_transfer_eq_ok_iff {request : TransferRequest} {frame : Bytes}
    {reply : TransferReply} :
    (transfer request).decode frame = .ok reply ↔
      ∃ count status words, frame = 0x05 :: count :: status :: words ∧
        request.Allows count words ∧ reply = request.told count status words := by
  rw [decode_eq_ok_iff]
  constructor
  · rintro ⟨payload, rfl, long, parsed⟩
    match payload, long with
    | count :: status :: words, _ =>
      exact ⟨count, status, words, rfl, TransferRequest.parse_eq_ok_iff.mp parsed⟩
  · rintro ⟨count, status, words, rfl, allowed⟩
    exact ⟨_, rfl, Nat.le_add_left 2 words.length, TransferRequest.parse_eq_ok_iff.mpr allowed⟩

/-- An answer to a block request is read exactly if it has the form of one. -/
theorem decode_transferBlock_eq_ok_iff {request : BlockRequest} {frame : Bytes}
    {reply : BlockReply} :
    (transferBlock request).decode frame = .ok reply ↔
      ∃ count status words, frame = 0x06 :: (Bytes.ofUInt16 count ++ status :: words) ∧
        request.Allows count words ∧ reply = request.told count status words := by
  rw [decode_eq_ok_iff]
  constructor
  · rintro ⟨payload, rfl, long, parsed⟩
    match payload, long with
    | low :: high :: status :: words, _ =>
      have header := Bytes.ofUInt16_uint16At low high
      rw [show low :: high :: status :: words = [low, high] ++ status :: words from rfl,
        ← header] at parsed ⊢
      exact ⟨_, status, words, rfl, BlockRequest.parse_eq_ok_iff.mp parsed⟩
  · rintro ⟨count, status, words, rfl, allowed⟩
    exact ⟨_, rfl, Nat.le_add_left 3 words.length, BlockRequest.parse_eq_ok_iff.mpr allowed⟩

end Request

/-- What is read from an answer to accesses is what it tells, and no other frame is read. -/
theorem Request.decode_answer_iff :
    (∀ (request : TransferRequest) (frame : Bytes) (reply : TransferReply),
      (transfer request).decode frame = .ok reply ↔
        ∃ count status words, frame = 0x05 :: count :: status :: words ∧
          request.Allows count words ∧ reply = request.told count status words) ∧
    (∀ (request : BlockRequest) (frame : Bytes) (reply : BlockReply),
      (transferBlock request).decode frame = .ok reply ↔
        ∃ count status words, frame = 0x06 :: (Bytes.ofUInt16 count ++ status :: words) ∧
          request.Allows count words ∧ reply = request.told count status words) ∧
    (∀ (request : TransferRequest) (count status : UInt8) (data : List (Option UInt32)),
      count.toNat ≤ request.transfers.length →
      data.map Option.isSome = (request.transfers.take count.toNat).map Transfer.isRead →
      (transfer request).decode (TransferRequest.answer count status data) =
        .ok ⟨count.toNat, .ofByte status, data⟩) ∧
    (∀ (request : BlockRequest) (count : UInt16) (status : UInt8) (words : List UInt32),
      count.toNat ≤ request.access.count.toNat →
      words.length = (if request.access.isRead then count.toNat else 0) →
      (transferBlock request).decode (BlockRequest.answer count status words) =
        .ok ⟨count.toNat, .ofByte status, words⟩) := by
  refine ⟨fun _ _ _ ↦ decode_transfer_eq_ok_iff, fun _ _ _ ↦ decode_transferBlock_eq_ok_iff,
    fun request count status data le kinds ↦ ?_, fun request count status words le size ↦ ?_⟩
  · have read : TransferRequest.readData (count :: status :: Bytes.ofWords (data.filterMap id))
        (request.transfers.take count.toNat) 2 = .ok data :=
      Frame.readData_ofWords kinds (List.append_nil _).symm
    have parsed : request.parse (count :: status :: Bytes.ofWords (data.filterMap id)) = _ :=
      Frame.parse_transfer le
    refine decode_eq_ok_iff.mpr ⟨_, rfl, Nat.le_add_left 2 _, parsed.trans ?_⟩
    exact congrArg (Except.map _) read
  · refine decode_transferBlock_eq_ok_iff.mpr ⟨count, status, _, rfl, ⟨le, ?_⟩, ?_⟩
    · intro isRead
      rw [if_pos isRead] at size
      exact Nat.le_of_eq (by rw [Frame.length_ofWords, size])
    · unfold BlockRequest.told
      split at size
      · next isRead =>
        have back := Frame.words_ofWords words []
        rw [List.append_nil, size] at back
        rw [if_pos isRead, ← Bytes.words_eq_map, back]
      · next isWrite =>
        rw [if_neg isWrite, List.eq_nil_of_length_eq_zero size]

/-- Two of three accesses completed, the second of them a read, and its word is found. -/
theorem Request.decode_answer_of_interrupted :
    (transfer ⟨0, [⟨.debug, 0x8, some 0⟩, ⟨.access, 0xC, none⟩, ⟨.debug, 0x0, none⟩]⟩).decode
        [0x05, 2, 0x04, 0x78, 0x56, 0x34, 0x12] =
      .ok ⟨2, ⟨.fault, false, false⟩, [none, some 0x12345678]⟩ :=
  decode_answer_iff.2.2.1
    ⟨0, [⟨.debug, 0x8, some 0⟩, ⟨.access, 0xC, none⟩, ⟨.debug, 0x0, none⟩]⟩ 2 0x04
    [none, some 0x12345678] (by decide) rfl

end DebugProbe
