import DebugProbe.Proofs.Link.Queue

/-!
# Limits of a batch

How much a batch may hold is counted from the number of its entries and their sizes. The count is
exact: an access is queued if and only if the transfer command for the batch with it is encoded and
an answer in which all of it completes fits into a packet, whatever the position of the debug port.
-/

namespace DebugProbe

/-- A transfer command goes through with packets of a size: it is encoded, and some answer that fits
into a packet is read as one in which every transfer completed. -/
structure TransferRequest.Travels (request : TransferRequest) (packetSize : Nat) : Prop where
  encoded : (Request.transfer request).encode packetSize = .ok (Request.transfer request).frame
  answered : ∃ (reply : Bytes) (status : TransferStatus) (data : List (Option UInt32)),
    reply.length ≤ packetSize ∧
    (Request.transfer request).decode reply = .ok ⟨request.transfers.length, status, data⟩

variable {request : TransferRequest} {packetSize : Nat}

/-- A transfer command is encoded exactly if the number of its entries fits into a byte and its
frame into a packet. -/
theorem Request.encode_transfer_iff :
    (transfer request).encode packetSize = .ok (transfer request).frame ↔
      request.transfers.length ≤ TransferRequest.maxCount ∧ request.requestSize ≤ packetSize := by
  by_cases few : request.transfers.length ≤ TransferRequest.maxCount
  · have inRange : (transfer request).overflow? packetSize = none := if_neg (Nat.not_lt.mpr few)
    rw [← Frame.length_transfer]
    rcases encode_of_overflow inRange with ⟨small, encoded⟩ | ⟨large, error, refused⟩
    · exact ⟨fun _ ↦ ⟨few, small⟩, fun _ ↦ encoded⟩
    · rw [refused]
      exact ⟨nofun, fun ⟨_, small⟩ ↦ absurd small (Nat.not_le.mpr large)⟩
  · have many : (transfer request).overflow? packetSize =
        some (.frameTooLarge request.requestSize packetSize) := if_pos (Nat.lt_of_not_le few)
    refine ⟨fun encoded ↦ ?_, fun ⟨fits, _⟩ ↦ absurd fits few⟩
    nomatch many.symm.trans (encode_eq_ok_iff.mp encoded).1

/-- The report on completed transfers is as long as the request says. -/
theorem Frame.length_report {data : List (Option UInt32)}
    (kinds : data.map Option.isSome = request.transfers.map Transfer.isRead) (status : UInt8) :
    (report (Request.transfer request).frame data status).length = request.replySize := by
  show (Bytes.ofWords (data.filterMap id)).length + 3 =
    3 + 4 * request.transfers.countP Transfer.isRead
  rw [length_ofWords, length_words kinds, Nat.add_comm]

/-- An answer that is read as one in which every transfer completed has room for all the words that
were read. -/
private theorem replySize_le_of_decode {reply : Bytes} {status : TransferStatus}
    {data : List (Option UInt32)}
    (decoded : (Request.transfer request).decode reply =
      .ok ⟨request.transfers.length, status, data⟩) : request.replySize ≤ reply.length := by
  obtain ⟨code, payload, rfl, long, parsed⟩ := Request.parse_of_decode decoded
  obtain ⟨-, read⟩ := Frame.readData_of_parse parsed
  rw [List.take_length] at read
  have header : 2 ≤ payload.length := long
  have room := Frame.length_of_readData header read
  show 3 + 4 * request.transfers.countP Transfer.isRead ≤ payload.length + 1
  omega

/-- Data for all transfers, with a zero for each read. -/
private def TransferRequest.zeroes (request : TransferRequest) : List (Option UInt32) :=
  request.transfers.map fun transfer ↦ if transfer.isRead then some 0 else none

private theorem TransferRequest.isSome_zeroes :
    request.zeroes.map Option.isSome = request.transfers.map Transfer.isRead := by
  unfold zeroes
  rw [List.map_map]
  refine List.map_congr_left fun transfer _ ↦ ?_
  show (if transfer.isRead then some (0 : UInt32) else none).isSome = transfer.isRead
  cases transfer.isRead <;> rfl

/-- The report of a probe that carried everything out is read as one in which every transfer
completed. -/
private theorem exists_report (few : request.transfers.length ≤ TransferRequest.maxCount) :
    ∃ (reply : Bytes) (status : TransferStatus) (data : List (Option UInt32)),
      reply.length = request.replySize ∧
      (Request.transfer request).decode reply = .ok ⟨request.transfers.length, status, data⟩ := by
  have kinds := request.isSome_zeroes
  have count : request.zeroes.length = request.transfers.length := List.length_map _
  have length := Frame.length_report kinds 1
  have header : 3 ≤ request.replySize := Nat.le_add_right 3 _
  have decoded := Frame.decode_transfer (by rw [count, List.take_length, kinds])
    (Nat.le_of_eq count) few 1 [] header
  rw [List.append_nil, List.take_of_length_le (Nat.le_of_eq length)] at decoded
  split at decoded
  · next reply read =>
    refine ⟨_, .ofByte 1, request.zeroes, length, ?_⟩
    rw [read, decoded, count]
  · exact absurd decoded (Nat.lt_irrefl _)

/-- What is counted is what can be sent and answered. -/
theorem TransferRequest.travels_iff : request.Travels packetSize ↔ request.Fits packetSize := by
  constructor
  · rintro ⟨encoded, reply, status, data, small, decoded⟩
    obtain ⟨few, room⟩ := Request.encode_transfer_iff.mp encoded
    exact ⟨few, room, Nat.le_trans (replySize_le_of_decode decoded) small⟩
  · rintro ⟨few, room, answer⟩
    obtain ⟨reply, status, data, length, decoded⟩ := exists_report few
    exact ⟨Request.encode_transfer_iff.mpr ⟨few, room⟩, reply, status, data,
      length ▸ answer, decoded⟩

/-- If a command goes through, then the report that all of it completed fits into a packet. -/
theorem TransferRequest.Travels.length_report (travels : request.Travels packetSize)
    {data : List (Option UInt32)}
    (kinds : data.map Option.isSome = request.transfers.map Transfer.isRead) (status : UInt8) :
    (Frame.report (Request.transfer request).frame data status).length ≤ packetSize := by
  rw [Frame.length_report kinds]
  exact (travels_iff.mp travels).2.2

namespace Batch

/-- The batch with one more access, whether or not it fits into a packet. -/
def extended (batch : Batch) (cache : Option Select) (access : RegisterAccess) : Batch :=
  let added := entriesFor (batch.current cache) access batch.requests
  ⟨batch.entries ++ added, selectAfter (batch.current cache) added, batch.requests + 1⟩

/-- The request for a batch that fits goes through, whatever the position of the debug port. -/
theorem travels_of_fits {entries : List BatchEntry} (room : fits entries packetSize = true)
    (dapIndex : UInt8) : (TransferRequest.ofEntries dapIndex entries).Travels packetSize :=
  TransferRequest.travels_iff.mpr ((fits_iff dapIndex).mp room)

end Batch

/-- Where accesses may go out, one is queued exactly if the request for the batch with it goes
through, whatever the position of the debug port. Otherwise the batch is full, and nothing
changes. -/
theorem Link.yields_queue_travels {σ : Type} {link : Link σ} (access : RegisterAccess)
    (active : link.state.isActive = true) (clear : link.state.stickyError = false) :
    (queue packetSize access).Yields link
      (fun index next ↦ index = link.batch.requests ∧
        next = { link with batch := link.batch.extended link.state.selectCache access } ∧
        ∀ dapIndex, (TransferRequest.ofEntries dapIndex next.batch.entries).Travels packetSize)
      (fun error next ↦ error = .batchFull ∧ next = link ∧
        ∀ dapIndex, ¬(TransferRequest.ofEntries dapIndex
          (link.batch.extended link.state.selectCache access).entries).Travels packetSize) := by
  rw [yields_queue, yields_checkReady_of active clear]
  cases pushed : link.batch.push? link.state.selectCache packetSize access with
  | some batch =>
    obtain ⟨room, rfl⟩ := Batch.push?_eq_some_iff.mp pushed
    exact ⟨rfl, rfl, Batch.travels_of_fits room⟩
  | none =>
    refine ⟨rfl, rfl, fun dapIndex travels ↦ ?_⟩
    have room := (Batch.fits_iff dapIndex).mpr (TransferRequest.travels_iff.mp travels)
    have fits := Batch.push?_eq_some_iff.mpr ⟨room, rfl⟩
    rw [pushed] at fits
    nomatch fits

end DebugProbe
