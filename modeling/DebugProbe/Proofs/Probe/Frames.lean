import DebugProbe.Command.Request
import DebugProbe.Proofs.Target.Model
import DebugProbe.Simulator.Probe

/-!
# Frames that carry accesses

Two commands put accesses to the target. Firmware reads from their frames exactly the accesses that
were asked for, and the host reads from the answer, padded or cut, exactly what the firmware
reports or nothing at all.
-/

namespace DebugProbe

namespace Transfer

private theorem or_and (first second mask : UInt8) :
    (first ||| second) &&& mask = (first &&& mask) ||| (second &&& mask) :=
  UInt8.toBitVec_inj.mp BitVec.and_or_distrib_right

private theorem requestByte_and (port : Port) (isRead : Bool) (address mask : UInt8) :
    requestByte port isRead address &&& mask =
      (requestByte port isRead 0 &&& mask) ||| (address &&& (0x0C &&& mask)) := by
  unfold requestByte
  rw [or_and, UInt8.and_assoc address, UInt8.zero_and, UInt8.or_zero]

/-- The request byte holds bits 3 and 2 of the address. -/
theorem requestByte_address (port : Port) (isRead : Bool) (address : UInt8) :
    requestByte port isRead address &&& 0x0C = address &&& 0x0C := by
  have others : requestByte port isRead 0 &&& 0x0C = 0 := by
    cases port <;> cases isRead <;> rfl
  rw [requestByte_and, others, UInt8.zero_or]
  rfl

/-- Bit 0 of the request byte is clear for the debug port. -/
theorem requestByte_port (port : Port) (isRead : Bool) (address : UInt8) :
    requestByte port isRead address &&& 0x01 = if port = .debug then 0 else 1 := by
  rw [requestByte_and, show (0x0C &&& 0x01 : UInt8) = 0 from rfl, UInt8.and_zero, UInt8.or_zero]
  cases port <;> cases isRead <;> rfl

/-- Bit 1 of the request byte is clear for a write. -/
theorem requestByte_direction (port : Port) (isRead : Bool) (address : UInt8) :
    requestByte port isRead address &&& 0x02 = if isRead then 2 else 0 := by
  rw [requestByte_and, show (0x0C &&& 0x02 : UInt8) = 0 from rfl, UInt8.and_zero, UInt8.or_zero]
  cases port <;> cases isRead <;> rfl

/-- The bytes of the value that a write carries. -/
def valueBytes (transfer : Transfer) : Bytes :=
  match transfer.value with
  | some value => Bytes.ofUInt32 value
  | none => []

end Transfer

namespace Simulator

/-- A request byte and the bytes of the value give the access back. -/
theorem readTransfer_requestByte (transfer : Transfer) (rest : Bytes) :
    readTransfer (Transfer.requestByte transfer.port transfer.isRead transfer.address)
      (transfer.valueBytes ++ rest) = (transfer.onWire, rest) := by
  rcases transfer with ⟨port, address, value⟩
  unfold readTransfer
  rw [Transfer.requestByte_address, Transfer.requestByte_port, Transfer.requestByte_direction]
  have side : (if (if port = .debug then 0 else 1 : UInt8) = 0 then Port.debug else .access)
      = port := by
    cases port <;> rfl
  rw [side]
  cases value with
  | none => rfl
  | some value =>
    have dropped : (Bytes.ofUInt32 value ++ rest).drop 4 = rest :=
      List.drop_left' (Bytes.length_ofUInt32 value)
    simp only [Transfer.isRead, Transfer.valueBytes, Option.isNone_some, Bool.false_eq_true,
      if_false, if_true, Bytes.uint32At_ofUInt32_append, dropped, Transfer.onWire]

/-- The entries of a transfer command are read back as they were written. -/
theorem readTransfers_payload (transfers : List Transfer) (rest : Bytes) :
    readTransfers transfers.length (transfers.flatMap Transfer.payload ++ rest) =
      transfers.map Transfer.onWire := by
  induction transfers with
  | nil => rfl
  | cons transfer others ih =>
    have entry := readTransfer_requestByte transfer (others.flatMap Transfer.payload ++ rest)
    rw [List.flatMap_cons, List.append_assoc]
    show readTransfers (others.length + 1)
      (Transfer.requestByte transfer.port transfer.isRead transfer.address ::
        (transfer.valueBytes ++ (others.flatMap Transfer.payload ++ rest))) = _
    unfold readTransfers
    simp only [Bytes.byteAt, List.getD_cons_zero, List.drop_succ_cons, List.drop_zero, entry,
      List.map_cons, ih]

/-- The words of a block command are read back as accesses to its register. -/
theorem readBlock_words (port : Port) (address : UInt8) (words : List UInt32) (rest : Bytes) :
    readBlock (Transfer.requestByte port false address) words.length
        (Bytes.ofWords words ++ rest) =
      words.map fun word ↦ Transfer.onWire ⟨port, address, some word⟩ := by
  induction words with
  | nil => rfl
  | cons word words ih =>
    have entry := readTransfer_requestByte ⟨port, address, some word⟩ (Bytes.ofWords words ++ rest)
    have shape : Bytes.ofWords (word :: words) ++ rest =
        Bytes.ofUInt32 word ++ (Bytes.ofWords words ++ rest) := by
      simp only [Bytes.ofWords, List.flatMap_cons, List.append_assoc]
    rw [shape, List.length_cons]
    unfold readBlock
    simp only [Transfer.isRead, Transfer.valueBytes, Option.isNone_some] at entry
    simp only [entry, List.map_cons, ih]

/-- A block command that reads asks for the same access again and again. -/
theorem readBlock_reads (port : Port) (address : UInt8) (count : Nat) (body : Bytes) :
    readBlock (Transfer.requestByte port true address) count body =
      List.replicate count (Transfer.onWire ⟨port, address, none⟩) := by
  induction count with
  | zero => rfl
  | succ count ih =>
    have entry := readTransfer_requestByte ⟨port, address, none⟩ body
    unfold readBlock
    simp only [Transfer.isRead, Transfer.valueBytes, Option.isNone_none, List.nil_append] at entry
    simp only [entry, ih, List.replicate_succ]

end Simulator

/-- The accesses that a block request asks for, one for each word. -/
def BlockRequest.transfers (request : BlockRequest) : List Transfer :=
  match request.access with
  | .read count => List.replicate count.toNat ⟨request.port, request.address, none⟩
  | .write words => words.map fun word ↦ ⟨request.port, request.address, some word⟩

/-- An answer that is read begins with some code, behind which there is enough to be read. -/
theorem Request.parse_of_decode {request : Request} {frame : Bytes} {response : request.Response}
    (decoded : request.decode frame = .ok response) :
    ∃ code payload, frame = code :: payload ∧ request.minReplyLength ≤ payload.length ∧
      request.parse payload = .ok response := by
  cases frame with
  | nil => nomatch decoded
  | cons code payload =>
    unfold decode at decoded
    dsimp only at decoded
    split at decoded
    · nomatch decoded
    · cases enough : requireLength payload request.minReplyLength with
      | error error =>
        rw [enough] at decoded
        nomatch decoded
      | ok =>
        rw [enough] at decoded
        exact ⟨code, payload, rfl, requireLength_eq_ok_iff.mp enough, decoded⟩

namespace Frame

/-- Whether a command frame puts accesses to the target. -/
def IsAccess (frame : Bytes) : Prop := frame.byteAt 0 = 0x05 ∨ frame.byteAt 0 = 0x06

/-- The accesses that a command frame puts to the target, as firmware reads them. -/
def accesses (frame : Bytes) : List Transfer :=
  if frame.byteAt 0 = 0x05 then
    Simulator.readTransfers (frame.byteAt 2).toNat (frame.drop 3)
  else if frame.byteAt 0 = 0x06 then
    Simulator.readBlock (frame.byteAt 4) (frame.uint16At 2).toNat (frame.drop 5)
  else []

/-- The answer to a frame of accesses: how many completed, how the last one was answered and the
words that were read. -/
def report (frame : Bytes) (data : List (Option UInt32)) (status : UInt8) : Bytes :=
  if frame.byteAt 0 = 0x05 then
    0x05 :: UInt8.ofNat data.length :: status :: Bytes.ofWords (data.filterMap id)
  else
    0x06 :: (Bytes.ofNumber 2 data.length ++ status :: Bytes.ofWords (data.filterMap id))

/-- A transfer command puts the accesses that were asked for to the target. -/
theorem accesses_transfer {request : TransferRequest}
    (fits : request.transfers.length ≤ TransferRequest.maxCount) :
    accesses (Request.transfer request).frame = request.transfers.map Transfer.onWire := by
  have count : (UInt8.ofNat request.transfers.length).toNat = request.transfers.length := by
    unfold TransferRequest.maxCount at fits
    rw [UInt8.toNat_ofNat', Nat.mod_eq_of_lt (by omega)]
  have entries := Simulator.readTransfers_payload request.transfers []
  rw [List.append_nil] at entries
  show Simulator.readTransfers (UInt8.ofNat request.transfers.length).toNat
    (request.transfers.flatMap Transfer.payload) = _
  rw [count, entries]

/-- A block command puts the accesses that were asked for to the target. -/
theorem accesses_transferBlock {request : BlockRequest}
    (fits : request.access.words.length ≤ 65535) :
    accesses (Request.transferBlock request).frame = request.transfers.map Transfer.onWire := by
  rcases request with ⟨dapIndex, port, address, access⟩
  have count (rest : Bytes) : Bytes.uint16At
      (0x06 :: dapIndex :: (Bytes.ofUInt16 access.count ++ rest)) 2 = access.count :=
    Bytes.uint16At_ofUInt16_append access.count rest
  show Simulator.readBlock (Transfer.requestByte port access.isRead address)
    (Bytes.uint16At (0x06 :: dapIndex :: (Bytes.ofUInt16 access.count ++ _)) 2).toNat
    (Bytes.ofWords access.words) = _
  rw [count]
  cases access with
  | read count =>
    simp only [BlockAccess.isRead, BlockAccess.count, BlockRequest.transfers,
      Simulator.readBlock_reads, List.map_replicate]
  | write words =>
    have bound : min words.length 65535 = words.length := Nat.min_eq_left fits
    have small : words.length < 65536 := Nat.lt_succ_of_le fits
    have size : (UInt16.ofNat (min words.length 65535)).toNat = words.length := by
      rw [bound, UInt16.toNat_ofNat']
      exact Nat.mod_eq_of_lt small
    have read := Simulator.readBlock_words port address words []
    rw [List.append_nil] at read
    simp only [BlockAccess.isRead, BlockAccess.count, BlockAccess.words, BlockRequest.transfers,
      size, read, List.map_map]
    rfl

@[simp] theorem length_ofWords (words : List UInt32) :
    (Bytes.ofWords words).length = 4 * words.length := by
  induction words with
  | nil => rfl
  | cons word words ih =>
    simp only [Bytes.ofWords, List.flatMap_cons, List.length_append, Bytes.length_ofUInt32,
      List.length_cons] at ih ⊢
    omega

/-- A transfer command is as long as its request says. -/
theorem length_transfer (request : TransferRequest) :
    (Request.transfer request).frame.length = request.requestSize := by
  have entries (transfers : List Transfer) : (transfers.flatMap Transfer.payload).length =
      (transfers.map Transfer.size).foldr (· + ·) 0 := by
    induction transfers with
    | nil => rfl
    | cons transfer others ih =>
      rw [List.flatMap_cons, List.length_append, Transfer.length_payload, ih]
      rfl
  show (request.transfers.flatMap Transfer.payload).length + 3 =
    3 + (request.transfers.map Transfer.size).foldr (· + ·) 0
  rw [entries, Nat.add_comm]

/-- A block command has five bytes before the words of a write. -/
theorem length_transferBlock (request : BlockRequest) :
    (Request.transferBlock request).frame.length = 5 + 4 * request.access.words.length := by
  show (Bytes.ofUInt16 request.access.count ++
    _ :: Bytes.ofWords request.access.words).length + 2 = _
  rw [List.length_append, Bytes.length_ofUInt16, List.length_cons, length_ofWords]
  omega

/-- The words of completed reads are found in the answer. -/
theorem readData_ofWords {transfers : List Transfer} {data : List (Option UInt32)}
    (kinds : data.map Option.isSome = transfers.map Transfer.isRead) {payload padding : Bytes}
    {position : Nat}
    (rest : payload.drop position = Bytes.ofWords (data.filterMap id) ++ padding) :
    TransferRequest.readData payload transfers position = .ok data := by
  induction transfers generalizing data position with
  | nil =>
    rw [List.map_nil, List.map_eq_nil_iff] at kinds
    rw [kinds]
    rfl
  | cons transfer others ih =>
    cases data with
    | nil => simp at kinds
    | cons word data =>
      rw [List.map_cons, List.map_cons, List.cons.injEq] at kinds
      unfold TransferRequest.readData
      cases word with
      | none =>
        have write : transfer.isRead = false := kinds.1.symm
        rw [List.filterMap_cons_none rfl] at rest
        rw [if_neg (by simp [write]), ih kinds.2 rest]
        rfl
      | some word =>
        have read : transfer.isRead = true := kinds.1.symm
        rw [List.filterMap_cons_some (f := id) rfl, Bytes.ofWords, List.flatMap_cons,
          List.append_assoc, ← Bytes.ofWords] at rest
        have long : position + 4 ≤ payload.length := by
          have lengths := congrArg List.length rest
          simp only [List.length_drop, List.length_append, Bytes.length_ofUInt32] at lengths
          omega
        have here : payload.uint32At position = word := by
          show Bytes.uint32At (payload.drop position) 0 = word
          rw [rest]
          exact Bytes.uint32At_ofUInt32_append word _
        have next : payload.drop (position + 4) =
            Bytes.ofWords (data.filterMap id) ++ padding := by
          rw [← List.drop_drop, rest]
          exact List.drop_left' (Bytes.length_ofUInt32 word)
        rw [if_pos read, requireLength_eq_ok_iff.mpr long]
        simp only [bind, Except.bind, pure, Except.pure]
        rw [ih kinds.2 next, here]

/-- Words that are missing at the end of an answer are noticed. -/
theorem length_of_readData {transfers : List Transfer} {data : List (Option UInt32)}
    {payload : Bytes} {position : Nat} (start : position ≤ payload.length)
    (read : TransferRequest.readData payload transfers position = .ok data) :
    position + 4 * transfers.countP Transfer.isRead ≤ payload.length := by
  induction transfers generalizing data position with
  | nil => exact start
  | cons transfer others ih =>
    unfold TransferRequest.readData at read
    split at read
    · next isRead =>
      cases enough : requireLength payload (position + 4) with
      | error error => simp [enough, bind, Except.bind] at read
      | ok =>
        cases later : TransferRequest.readData payload others (position + 4) with
        | error error => simp [enough, later, bind, Except.bind] at read
        | ok rest =>
          have bound := ih (requireLength_eq_ok_iff.mp enough) later
          rw [List.countP_cons_of_pos isRead]
          omega
    · next isWrite =>
      cases later : TransferRequest.readData payload others position with
      | error error => simp [later, bind, Except.bind] at read
      | ok rest =>
        rw [List.countP_cons_of_neg (by simpa using isWrite)]
        exact ih start later

/-- There is an item of data for each transfer. -/
theorem length_data_of_readData {transfers : List Transfer} {data : List (Option UInt32)}
    {payload : Bytes} {position : Nat}
    (read : TransferRequest.readData payload transfers position = .ok data) :
    data.length = transfers.length := by
  induction transfers generalizing data position with
  | nil =>
    rw [← Except.ok.inj read]
    rfl
  | cons transfer others ih =>
    unfold TransferRequest.readData at read
    split at read
    · cases enough : requireLength payload (position + 4) with
      | error error => simp [enough, bind, Except.bind] at read
      | ok =>
        cases later : TransferRequest.readData payload others (position + 4) with
        | error error => simp [enough, later, bind, Except.bind] at read
        | ok rest =>
          simp [enough, later, bind, Except.bind] at read
          rw [← Except.ok.inj read, List.length_cons, ih later, List.length_cons]
    · cases later : TransferRequest.readData payload others position with
      | error error => simp [later, bind, Except.bind] at read
      | ok rest =>
        simp [later, bind, Except.bind] at read
        rw [← Except.ok.inj read, List.length_cons, ih later, List.length_cons]

/-- As many words are reported as reads completed. -/
theorem length_words {transfers : List Transfer} {data : List (Option UInt32)}
    (kinds : data.map Option.isSome = transfers.map Transfer.isRead) :
    (data.filterMap id).length = transfers.countP Transfer.isRead := by
  have counted : data.countP Option.isSome = transfers.countP Transfer.isRead := by
    have same := congrArg (List.countP id) kinds
    simpa only [List.countP_map, Function.id_comp] using same
  rw [← counted, List.length_filterMap_eq_countP]
  rfl

/-- An answer whose count the request allows is read if the data is. -/
theorem parse_transfer {request : TransferRequest} {payload : Bytes}
    (le : (Bytes.byteAt payload 0).toNat ≤ request.transfers.length) :
    request.parse payload =
      (TransferRequest.readData payload
        (request.transfers.take (Bytes.byteAt payload 0).toNat) 2).map fun data ↦
          ⟨(Bytes.byteAt payload 0).toNat, .ofByte (Bytes.byteAt payload 1), data⟩ := by
  unfold TransferRequest.parse
  rw [if_neg (Nat.not_lt.mpr le)]
  cases TransferRequest.readData payload
    (request.transfers.take (Bytes.byteAt payload 0).toNat) 2 with
  | ok data => rfl
  | error error => rfl

/-- An answer is read with as many transfers as it says completed. -/
theorem readData_of_parse {request : TransferRequest} {payload : Bytes} {reply : TransferReply}
    (parsed : request.parse payload = .ok reply) :
    reply.count ≤ request.transfers.length ∧
      TransferRequest.readData payload (request.transfers.take reply.count) 2 =
        .ok reply.data := by
  by_cases le : (Bytes.byteAt payload 0).toNat ≤ request.transfers.length
  · rw [parse_transfer le] at parsed
    cases read : TransferRequest.readData payload
      (request.transfers.take (Bytes.byteAt payload 0).toNat) 2 with
    | error error =>
      rw [read] at parsed
      nomatch parsed
    | ok data =>
      rw [read] at parsed
      rw [← Except.ok.inj parsed]
      exact ⟨le, read⟩
  · unfold TransferRequest.parse at parsed
    rw [if_pos (Nat.lt_of_not_le le)] at parsed
    nomatch parsed

/-- An answer that is read has an item of data for each transfer that completed. -/
theorem length_of_parse_transfer {request : TransferRequest} {payload : Bytes}
    {reply : TransferReply} (parsed : request.parse payload = .ok reply) :
    reply.data.length = reply.count ∧ reply.count ≤ request.transfers.length := by
  obtain ⟨le, read⟩ := readData_of_parse parsed
  have length := length_data_of_readData read
  rw [List.length_take, Nat.min_eq_left le] at length
  exact ⟨length, le⟩

/-- The report on a transfer command, padded and then cut to the size of a buffer, is read as what
it reports; it is refused if the buffer is too small for it. -/
theorem decode_transfer {request : TransferRequest} {data : List (Option UInt32)}
    (kinds : data.map Option.isSome =
      (request.transfers.take data.length).map Transfer.isRead)
    (le : data.length ≤ request.transfers.length)
    (fits : request.transfers.length ≤ TransferRequest.maxCount) (status : UInt8)
    (padding : Bytes) {capacity : Nat} (header : 3 ≤ capacity) :
    match (Request.transfer request).decode
        ((report (Request.transfer request).frame data status ++ padding).take capacity) with
    | .ok reply => reply = ⟨data.length, .ofByte status, data⟩
    | .error _ => capacity < request.replySize := by
  obtain ⟨room, rfl⟩ : ∃ room, capacity = room + 3 := ⟨capacity - 3, by omega⟩
  -- What is left of the report in the buffer, behind the command code.
  obtain ⟨payload, left⟩ : ∃ payload : Bytes, UInt8.ofNat data.length :: status ::
    (Bytes.ofWords (data.filterMap id) ++ padding).take room = payload := ⟨_, rfl⟩
  have decoded : (Request.transfer request).decode
      ((report (Request.transfer request).frame data status ++ padding).take (room + 3)) =
        (do
          requireLength payload 2
          request.parse payload) := by
    rw [← left]
    rfl
  have count : (payload.byteAt 0).toNat = data.length := by
    unfold TransferRequest.maxCount at fits
    rw [← left]
    show (UInt8.ofNat data.length).toNat = data.length
    rw [UInt8.toNat_ofNat', Nat.mod_eq_of_lt (by omega)]
  have second : payload.byteAt 1 = status := by rw [← left]; rfl
  have words : payload.drop 2 = (Bytes.ofWords (data.filterMap id) ++ padding).take room := by
    rw [← left]; rfl
  have long : 2 ≤ payload.length := by rw [← left]; simp
  rw [decoded, requireLength_eq_ok_iff.mpr long]
  simp only [bind, Except.bind]
  rw [parse_transfer (by rw [count]; exact le), count, second]
  by_cases enough : (Bytes.ofWords (data.filterMap id)).length ≤ room
  · rw [List.take_append, List.take_of_length_le enough] at words
    rw [readData_ofWords kinds words]
    rfl
  · cases read : TransferRequest.readData payload (request.transfers.take data.length) 2 with
    | ok found =>
      have bound := length_of_readData long read
      have short : payload.length ≤ room + 2 := by
        rw [← left, List.length_cons, List.length_cons]
        have := List.length_take_le room (Bytes.ofWords (data.filterMap id) ++ padding)
        omega
      rw [length_ofWords, length_words kinds] at enough
      omega
    | error error =>
      have part : (request.transfers.take data.length).countP Transfer.isRead ≤
          request.transfers.countP Transfer.isRead :=
        (List.take_sublist _ _).countP_le
      rw [length_ofWords, length_words kinds] at enough
      show room + 3 < 3 + 4 * request.transfers.countP Transfer.isRead
      omega

/-- A block request announces one access for each word. -/
theorem length_blockTransfers {request : BlockRequest}
    (fits : request.access.words.length ≤ 65535) :
    request.transfers.length = request.access.count.toNat := by
  rcases request with ⟨dapIndex, port, address, access⟩
  cases access with
  | read count => exact List.length_replicate
  | write words =>
    have small : words.length < 65536 := Nat.lt_succ_of_le fits
    show (words.map _).length = (UInt16.ofNat (min words.length 65535)).toNat
    rw [List.length_map, Nat.min_eq_left (Nat.le_of_lt_succ small), UInt16.toNat_ofNat']
    exact (Nat.mod_eq_of_lt small).symm

/-- The accesses of a block request are all reads or all writes. -/
theorem isRead_blockTransfers {request : BlockRequest} {transfer : Transfer}
    (member : transfer ∈ request.transfers) : transfer.isRead = request.access.isRead := by
  rcases request with ⟨dapIndex, port, address, access⟩
  cases access with
  | read count => rw [List.eq_of_mem_replicate member]; rfl
  | write words =>
    obtain ⟨word, -, rfl⟩ := List.mem_map.mp member
    rfl

private theorem length_blockWords {request : BlockRequest} {data : List (Option UInt32)}
    (kinds : data.map Option.isSome =
      (request.transfers.take data.length).map Transfer.isRead)
    (le : data.length ≤ request.transfers.length) :
    (data.filterMap id).length = if request.access.isRead then data.length else 0 := by
  rw [length_words kinds]
  split
  · next isRead =>
    have all : (request.transfers.take data.length).countP Transfer.isRead =
        (request.transfers.take data.length).length :=
      List.countP_eq_length.mpr fun transfer member ↦
        (isRead_blockTransfers (List.mem_of_mem_take member)).trans isRead
    rw [all, List.length_take_of_le le]
  · next isWrite =>
    refine List.countP_eq_zero.mpr fun transfer member ↦ ?_
    rw [isRead_blockTransfers (List.mem_of_mem_take member)]
    exact isWrite

/-- Words that were written are read back. -/
theorem words_ofWords (words : List UInt32) (rest : Bytes) :
    Bytes.words words.length (Bytes.ofWords words ++ rest) = words := by
  induction words with
  | nil => rfl
  | cons word words ih =>
    have shape : Bytes.ofWords (word :: words) ++ rest =
        Bytes.ofUInt32 word ++ (Bytes.ofWords words ++ rest) := by
      simp only [Bytes.ofWords, List.flatMap_cons, List.append_assoc]
    rw [shape, List.length_cons]
    unfold Bytes.words
    rw [Bytes.uint32At_ofUInt32_append, List.drop_left' (Bytes.length_ofUInt32 word), ih]

/-- The report on a block command, padded and then cut to the size of a buffer, is read as what it
reports; it is refused if the buffer is too small for it. -/
theorem decode_transferBlock {request : BlockRequest} {data : List (Option UInt32)}
    (kinds : data.map Option.isSome =
      (request.transfers.take data.length).map Transfer.isRead)
    (le : data.length ≤ request.transfers.length)
    (fits : request.access.words.length ≤ 65535) (status : UInt8)
    (padding : Bytes) {capacity : Nat} (header : 4 ≤ capacity) :
    match (Request.transferBlock request).decode
        ((report (Request.transferBlock request).frame data status ++ padding).take capacity) with
    | .ok reply => reply = ⟨data.length, .ofByte status, data.filterMap id⟩
    | .error _ => request.access.isRead = true ∧ capacity < 4 + 4 * request.transfers.length := by
  obtain ⟨room, rfl⟩ : ∃ room, capacity = room + 4 := ⟨capacity - 4, by omega⟩
  -- What is left of the report in the buffer, behind the command code.
  obtain ⟨payload, left⟩ : ∃ payload : Bytes, Bytes.ofNumber 2 data.length ++ status ::
    (Bytes.ofWords (data.filterMap id) ++ padding).take room = payload := ⟨_, rfl⟩
  have decoded : (Request.transferBlock request).decode
      ((report (Request.transferBlock request).frame data status ++ padding).take (room + 4)) =
        (do
          requireLength payload 3
          request.parse payload) := by
    rw [← left]
    rfl
  have announced := length_blockTransfers fits
  have small : data.length < 65536 := by
    have := request.access.count.toNat_lt
    omega
  have count : (payload.uint16At 0).toNat = data.length := by
    have word : Bytes.ofNumber 2 data.length = Bytes.ofUInt16 (UInt16.ofNat data.length) := by
      unfold Bytes.ofUInt16
      rw [UInt16.toNat_ofNat', Nat.mod_eq_of_lt small]
    rw [← left, word, Bytes.uint16At_ofUInt16_append, UInt16.toNat_ofNat', Nat.mod_eq_of_lt small]
  have third : payload.byteAt 2 = status := by rw [← left]; rfl
  have words : payload.drop 3 = (Bytes.ofWords (data.filterMap id) ++ padding).take room := by
    rw [← left]; rfl
  have long : 3 ≤ payload.length := by
    rw [← left, List.length_append, Bytes.length_ofNumber, List.length_cons]
    omega
  have found := length_blockWords kinds le
  rw [decoded, requireLength_eq_ok_iff.mpr long]
  simp only [bind, Except.bind]
  unfold BlockRequest.parse
  rw [count, third, if_neg (by omega)]
  by_cases isRead : request.access.isRead = true
  · rw [if_pos isRead] at found ⊢
    by_cases enough : 3 + 4 * data.length ≤ payload.length
    · have whole : (Bytes.ofWords (data.filterMap id)).length ≤ room := by
        have := congrArg List.length words
        rw [List.length_drop, List.length_take] at this
        rw [length_ofWords, found]
        omega
      rw [requireLength_eq_ok_iff.mpr enough, words, List.take_append,
        List.take_of_length_le whole, ← found, words_ofWords, found]
      rfl
    · have refused : ∃ error, requireLength payload (3 + 4 * data.length) = .error error := by
        unfold requireLength
        exact ⟨_, if_pos (Nat.lt_of_not_le enough)⟩
      obtain ⟨error, refused⟩ := refused
      rw [refused]
      refine ⟨isRead, ?_⟩
      have := congrArg List.length words
      rw [List.length_drop, List.length_take, List.length_append, length_ofWords, found] at this
      omega
  · rw [if_neg isRead] at found ⊢
    rw [List.eq_nil_of_length_eq_zero found]
    rfl

end Frame

end DebugProbe
