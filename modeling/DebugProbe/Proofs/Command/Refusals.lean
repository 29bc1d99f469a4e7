import DebugProbe.Proofs.Bounds.Encoding

/-!
# What refusals say

A request that does not fit is refused with two numbers: the bytes that its frame takes, and those
that there is room for. The first one is always the size of the whole frame. The second one is the
packet size, also for a transfer of more entries than its frame can count. Such a transfer may fit
into the packet all the same, and then the refusal contradicts itself.
-/

namespace DebugProbe

/-- The complaint says that a frame of so many bytes does not fit into fewer bytes. -/
def FramingError.TellsTruth (size : Nat) (error : FramingError) : Prop :=
  ∃ max, error = .frameTooLarge size max ∧ max < size ∧
    error.message = "Frame of " ++ toString size ++ " bytes does not fit in a " ++ toString max ++
      " byte packet"

namespace Request

/-- Bytes that the whole frame takes: the command code, the parameters, and all entries or data. -/
def size : Request → Nat
  | disconnect | resetTarget | transferAbort | enterBootloader | handshake | reboot => 1
  | infoText _ | infoCapabilities | infoTraceBufferSize | infoPacketCount | infoPacketSize
  | connect _ | swdConfigure _ => 2
  | hostStatus _ _ => 3
  | clock _ | checksum _ => 5
  | writeAbort _ _ | transferConfigure _ => 6
  | pins _ => 7
  | lineSequence sequence => 2 + Bytes.sizeOfBits sequence.bitLength
  | jtagScan scan =>
    2 + (scan.sequences.map fun sequence ↦
      1 + Bytes.sizeOfBits sequence.tdi.length).foldr (· + ·) 0
  | jtagConfigure chain => 2 + chain.irLengths.length
  | transfer request =>
    3 + request.transfers.countP (·.isRead) + 5 * request.transfers.countP (!·.isRead)
  | transferBlock request => 5 + 4 * request.access.words.length
  | writeChunk chunk => 6 + chunk.data.length

end Request

/-- An entry takes one byte, and four more if it writes. -/
theorem TransferRequest.requestSize_eq (request : TransferRequest) :
    request.requestSize = (Request.transfer request).size := by
  have entries (transfers : List Transfer) : (transfers.map Transfer.size).foldr (· + ·) 0 =
      transfers.countP (·.isRead) + 5 * transfers.countP (!·.isRead) := by
    induction transfers with
    | nil => rfl
    | cons transfer others ih =>
      rw [List.map_cons, List.foldr_cons, ih, List.countP_cons, List.countP_cons]
      unfold Transfer.size
      cases transfer.isRead with
      | false => simp only [Bool.not_false, if_true, Bool.false_eq_true, if_false]; omega
      | true => simp only [Bool.not_true, if_true, Bool.false_eq_true, if_false]; omega
  show 3 + (request.transfers.map Transfer.size).foldr (· + ·) 0 =
    3 + request.transfers.countP (·.isRead) + 5 * request.transfers.countP (!·.isRead)
  rw [entries, Nat.add_assoc]

namespace Request

theorem length_frame (request : Request) : request.frame.length = request.size := by
  cases request with
  | lineSequence sequence =>
    show (sequence.bitCount :: sequence.data).length + 1 =
      2 + Bytes.sizeOfBits sequence.bitLength
    rw [List.length_cons, sequence.length_data]
    unfold LineSequence.bitLength
    split
    · rfl
    · omega
  | jtagScan scan =>
    show scan.payload.length + 1 = _
    rw [scan.length_payload, Nat.add_right_comm]
    rfl
  | jtagConfigure chain => exact Nat.add_comm chain.irLengths.length 2
  | transfer request => rw [Frame.length_transfer, request.requestSize_eq]
  | transferBlock request => exact Frame.length_transferBlock request
  | writeChunk chunk =>
    show (Bytes.ofUInt32 chunk.offset ++ _ :: chunk.data).length + 1 = 6 + chunk.data.length
    rw [List.length_append, Bytes.length_ofUInt32, List.length_cons]
    omega
  | _ => rfl

/-- Bytes that there is room for, as a refusal says. A chunk of more bytes than its frame can count
is told the longest frame of a chunk, whatever the packet size is. -/
def room (packetSize : Nat) : Request → Nat
  | writeChunk chunk =>
    if FirmwareChunk.maxData < chunk.data.length then
      FirmwareChunk.headerSize + FirmwareChunk.maxData
    else packetSize
  | _ => packetSize

theorem room_writeChunk {chunk : FirmwareChunk} (many : FirmwareChunk.maxData < chunk.data.length)
    (packetSize : Nat) :
    (writeChunk chunk).room packetSize = FirmwareChunk.headerSize + FirmwareChunk.maxData :=
  if_pos many

/-- A request whose counts outgrow their bytes is refused with the size of its frame. -/
theorem overflow_eq_of_oversized {request : Request} (oversized : request.Oversized)
    (packetSize : Nat) :
    request.overflow? packetSize =
      some (.frameTooLarge request.size (request.room packetSize)) := by
  cases request with
  | transfer request =>
    rw [← request.requestSize_eq]
    exact if_pos oversized
  | writeChunk chunk =>
    rw [room_writeChunk oversized]
    exact if_pos oversized
  | _ => exact oversized.elim

theorem room_of_inRange {request : Request} (inRange : ¬request.Oversized) (packetSize : Nat) :
    request.room packetSize = packetSize := by
  cases request with
  | writeChunk chunk => exact if_neg inRange
  | _ => rfl

/-- Where there is a packet at all, refusals name the size of the whole frame. -/
theorem encode_eq_error {request : Request} {packetSize : Nat} (positive : 0 < packetSize)
    {error : FramingError} :
    request.encode packetSize = .error error ↔
      error = .frameTooLarge request.size (request.room packetSize) ∧
        (request.Oversized ∨ packetSize < request.size) := by
  unfold encode
  rw [if_neg (Nat.ne_of_gt positive)]
  by_cases oversized : request.Oversized
  · rw [overflow_eq_of_oversized oversized]
    dsimp only
    rw [Except.error.injEq, eq_comm]
    exact (and_iff_left (.inl oversized)).symm
  · rw [overflow_eq_none_iff.mpr oversized, length_frame, room_of_inRange oversized]
    dsimp only
    split
    · next fits =>
      refine iff_of_false nofun fun refused ↦ ?_
      exact Nat.not_le_of_lt (refused.2.resolve_left oversized) fits
    · next large =>
      rw [Except.error.injEq, eq_comm]
      exact (and_iff_left (.inr (Nat.lt_of_not_le large))).symm

/-- A transfer has more entries than its frame can count, but its frame would fit into a packet. -/
def Uncountable (packetSize : Nat) : Request → Prop
  | transfer request =>
    TransferRequest.maxCount < request.transfers.length ∧ (transfer request).size ≤ packetSize
  | _ => False

/-- What is refused is larger than the room that is told, unless it is a transfer that fits but
cannot be counted. -/
theorem room_lt_size_iff {request : Request} {packetSize : Nat}
    (refused : request.Oversized ∨ packetSize < request.size) :
    request.room packetSize < request.size ↔ ¬request.Uncountable packetSize := by
  cases request with
  | transfer request =>
    refine ⟨fun less both ↦ Nat.not_le_of_lt less both.2, fun other ↦ ?_⟩
    rcases refused with many | large
    · exact Nat.lt_of_not_le fun fits ↦ other ⟨many, fits⟩
    · exact large
  | writeChunk chunk =>
    refine iff_of_true ?_ not_false
    by_cases many : FirmwareChunk.maxData < chunk.data.length
    · rw [room_writeChunk many]
      exact Nat.add_lt_add_left many 6
    · have inRange : ¬(writeChunk chunk).Oversized := many
      rw [room_of_inRange inRange]
      exact refused.resolve_left inRange
  | _ => exact iff_of_true (refused.resolve_left not_false) not_false

/-- Where there is a packet at all, every refusal names the size of the whole frame. That size is
more than the room that is told, unless the request is a transfer that has more entries than its
frame can count and would fit into the packet. -/
theorem refusal_truthful_iff (request : Request) {packetSize : Nat} (positive : 0 < packetSize) :
    request.frame.length = request.size ∧
    (∀ error, request.encode packetSize = .error error →
      ∃ max, error = .frameTooLarge request.size max) ∧
    ((∀ error, request.encode packetSize = .error error → error.TellsTruth request.size) ↔
      ¬request.Uncountable packetSize) := by
  refine ⟨length_frame request,
    fun error refused ↦ ⟨_, ((encode_eq_error positive).mp refused).1⟩, ?_, ?_⟩
  · intro truthful uncountable
    have refused : request.Oversized ∨ packetSize < request.size := by
      cases request with
      | transfer request => exact .inl uncountable.1
      | _ => exact uncountable.elim
    obtain ⟨max, same, less, -⟩ := truthful _ ((encode_eq_error positive).mpr ⟨rfl, refused⟩)
    injection same with _ told
    rw [← told] at less
    exact (room_lt_size_iff refused).mp less uncountable
  · intro countable error isRefused
    obtain ⟨rfl, refused⟩ := (encode_eq_error positive).mp isRefused
    exact ⟨_, rfl, (room_lt_size_iff refused).mpr countable, rfl⟩

/-- A transfer that reads a register once more often than its frame can count. -/
def manyReads : Request := .transfer ⟨0, List.replicate 256 ⟨.access, 0xC, none⟩⟩

private theorem size_manyReads : manyReads.size = 259 := by decide +kernel

/-- The reads are refused at every packet size. -/
private theorem encode_manyReads {packetSize : Nat} (positive : 0 < packetSize) :
    manyReads.encode packetSize = .error (.frameTooLarge 259 packetSize) := by
  have many : manyReads.Oversized := by
    show TransferRequest.maxCount < (List.replicate 256 _).length
    rw [List.length_replicate]
    decide
  rw [← size_manyReads]
  exact (encode_eq_error positive).mpr ⟨rfl, .inl many⟩

/-- A packet that has no room for the reads is too small, as the refusal says. -/
theorem refusal_truthful_of_manyReads :
    manyReads.encode 64 = .error (.frameTooLarge 259 64) ∧
      (FramingError.frameTooLarge 259 64).TellsTruth manyReads.size := by
  have countable : ¬manyReads.Uncountable 64 := by
    rintro ⟨-, fits⟩
    have size : manyReads.size ≤ 64 := fits
    rw [size_manyReads] at size
    exact absurd size (by decide)
  have refused : manyReads.encode 64 = .error (.frameTooLarge 259 64) :=
    encode_manyReads (by decide)
  exact ⟨refused, (refusal_truthful_iff manyReads (by decide)).2.2.mpr countable _ refused⟩

/-- In a packet that has room for them the reads are refused as well, and the refusal contradicts
itself. -/
theorem not_refusal_truthful_manyReads :
    manyReads.encode 512 = .error (.frameTooLarge 259 512) ∧ manyReads.frame.length = 259 ∧
      (FramingError.frameTooLarge 259 512).message =
        "Frame of 259 bytes does not fit in a 512 byte packet" ∧
      ¬∀ error, manyReads.encode 512 = .error error → error.TellsTruth manyReads.size := by
  have refused : manyReads.encode 512 = .error (.frameTooLarge 259 512) :=
    encode_manyReads (by decide)
  refine ⟨refused, by rw [length_frame, size_manyReads], by decide +kernel, fun truthful ↦ ?_⟩
  obtain ⟨max, same, less, -⟩ := truthful _ refused
  injection same with _ told
  rw [← told, size_manyReads] at less
  exact absurd less (by decide)

end Request

end DebugProbe
