import DebugProbe.Proofs.Command.Answers
import DebugProbe.Proofs.Command.Reading

/-!
# Blocks as firmware reads them

The frame of a block transfer announces a count of sixteen bits and, of a write, carries the words
behind it. Firmware that takes as many words as are announced reads the request back, as long as the
count can tell them all. A longer list is carried whole, but only its first words are announced.
-/

namespace DebugProbe

/-- Number of words to be read or written. -/
def BlockAccess.size : BlockAccess → Nat
  | read count => count.toNat
  | write words => words.length

namespace BlockRequest

/-- The request as firmware reads it from a frame: of the address only bits 3 and 2 are sent. -/
def onWire (request : BlockRequest) : BlockRequest :=
  { request with address := request.address &&& 0x0C }

/-- The part of a request that its count can tell. -/
def announced (request : BlockRequest) : BlockRequest :=
  match request.access with
  | .read _ => request
  | .write words => { request with access := .write (words.take 65535) }

end BlockRequest

namespace Reader

/-- A number of two bytes, least significant byte first. -/
def short : Reader UInt16 := return (← bytes 2).uint16At 0

/-- Index of the debug port, count, request byte and, of a write, as many words as were counted. -/
def block : Reader BlockRequest := do
  let code ← byte
  if code = 0x06 then
    let dapIndex ← byte
    let count ← short
    let request ← byte
    let port : Port := if request &&& 0x01 = 0 then .debug else .access
    if request &&& 0x02 = 0 then
      return ⟨dapIndex, port, request &&& 0x0C, .write (← items word count.toNat)⟩
    else return ⟨dapIndex, port, request &&& 0x0C, .read count⟩
  else failure

namespace Takes

theorem short (value : UInt16) : Reader.short.Takes (Bytes.ofUInt16 value) value := by
  have read := (bytes (Bytes.ofUInt16 value)).map fun data ↦ data.uint16At 0
  have back := Bytes.uint16At_ofUInt16_append value []
  rw [List.append_nil] at back
  rw [Bytes.length_ofUInt16, back] at read
  exact read

/-- Words are taken one by one. -/
theorem words (values : List UInt32) :
    (Reader.items Reader.word values.length).Takes (Bytes.ofWords values) values := by
  have read := items id fun value (_ : value ∈ values) ↦ word value
  rw [List.map_id] at read
  exact read

/-- A count that tells all words is followed by just these. -/
theorem block {request : BlockRequest} (few : request.access.words.length ≤ 65535) :
    Reader.block.Takes (Request.transferBlock request).frame request.onWire := by
  rcases request with ⟨dapIndex, port, address, access⟩
  have side : (if (if port = .debug then 0 else 1 : UInt8) = 0 then Port.debug else .access)
      = port := by
    cases port <;> rfl
  refine (byte _).bind ((byte _).bind ((short _).bind ((byte _).bind ?_)))
  rw [Transfer.requestByte_address, Transfer.requestByte_port, Transfer.requestByte_direction, side]
  cases access with
  | read count => exact .pure _
  | write values =>
    have bound : min values.length 65535 = values.length := Nat.min_eq_left few
    have count : (UInt16.ofNat (min values.length 65535)).toNat = values.length := by
      rw [bound]
      exact UInt16.toNat_ofNat_of_lt' (Nat.lt_succ_of_le few)
    have read := (words values).map fun values ↦
      (⟨dapIndex, port, address &&& 0x0C, .write values⟩ : BlockRequest)
    rw [← count] at read
    exact read

end Takes

end Reader

namespace BlockRequest

/-- The part that is announced is carried in front, and all other words follow. -/
theorem frame_announced (request : BlockRequest) :
    (Request.transferBlock request).frame =
      (Request.transferBlock request.announced).frame ++
        Bytes.ofWords (request.access.words.drop 65535) := by
  rcases request with ⟨dapIndex, port, address, access⟩
  cases access with
  | read count => exact (List.append_nil _).symm
  | write words =>
    have count : min (words.take 65535).length 65535 = min words.length 65535 := by
      rw [List.length_take]
      omega
    have carried : Bytes.ofWords words =
        Bytes.ofWords (words.take 65535) ++ Bytes.ofWords (words.drop 65535) := by
      unfold Bytes.ofWords
      rw [← List.flatMap_append, List.take_append_drop]
    show 0x06 :: dapIndex :: (Bytes.ofUInt16 (UInt16.ofNat (min words.length 65535)) ++
        Transfer.requestByte port false address :: Bytes.ofWords words) =
      0x06 :: dapIndex :: (Bytes.ofUInt16 (UInt16.ofNat (min (words.take 65535).length 65535)) ++
        Transfer.requestByte port false address :: Bytes.ofWords (words.take 65535)) ++
          Bytes.ofWords (words.drop 65535)
    rw [count, carried]
    simp only [List.cons_append, List.append_assoc]

theorem length_words_announced (request : BlockRequest) :
    request.announced.access.words.length ≤ 65535 := by
  rcases request with ⟨dapIndex, port, address, access⟩
  cases access with
  | read count => exact Nat.zero_le _
  | write words => exact List.length_take_le 65535 words

/-- Firmware always reads the part that is announced, and leaves what follows. -/
theorem read_announced (request : BlockRequest) :
    Reader.block (Request.transferBlock request).frame =
      some (request.announced.onWire, Bytes.ofWords (request.access.words.drop 65535)) := by
  rw [frame_announced]
  exact Reader.Takes.block request.length_words_announced _

/-- Firmware reads a request back and stops at the end of its frame exactly if the count can tell
all the words. -/
theorem takes_frame_iff (request : BlockRequest) :
    Reader.block.Takes (Request.transferBlock request).frame request.onWire ↔
      request.access.words.length ≤ 65535 := by
  refine ⟨fun taken ↦ ?_, Reader.Takes.block⟩
  have whole := taken []
  rw [List.append_nil, read_announced] at whole
  have none := congrArg List.length (Prod.mk.inj (Option.some.inj whole)).2
  rw [Frame.length_ofWords, List.length_drop] at none
  simp only [List.length_nil] at none
  omega

/-- The words of a request are no more than it is for. -/
private theorem length_words_le (access : BlockAccess) : access.words.length ≤ access.size := by
  cases access with
  | read count => exact Nat.zero_le _
  | write words => exact Nat.le_refl _

/-- A request for as many words as a packet takes fits into it. -/
theorem exists_frame {request : BlockRequest} {packetSize : Nat} (room : 9 ≤ packetSize)
    (few : request.access.size ≤ maxWords packetSize) :
    ∃ frame, (Request.transferBlock request).encode packetSize = .ok frame := by
  have words := length_words_le request.access
  unfold maxWords at few
  refine ⟨_, Request.encode_eq_ok_iff.mpr ⟨rfl, ?_, rfl⟩⟩
  rw [Frame.length_transferBlock]
  omega

/-- A packet that takes the words of a request takes the answer to the whole of it. -/
theorem length_answer_le {request : BlockRequest} {packetSize : Nat} (room : 9 ≤ packetSize)
    (few : request.access.size ≤ maxWords packetSize) (status : UInt8) {words : List UInt32}
    (complete : words.length = if request.access.isRead then request.access.count.toNat else 0) :
    (answer request.access.count status words).length ≤ packetSize := by
  have length : (answer request.access.count status words).length = 4 + 4 * words.length := by
    unfold answer
    rw [List.length_cons, List.length_append, Bytes.length_ofUInt16, List.length_cons,
      Frame.length_ofWords]
    omega
  have asked : words.length ≤ request.access.size := by
    rw [complete]
    cases request.access with
    | read count => exact Nat.le_refl count.toNat
    | write words => exact Nat.zero_le words.length
  unfold maxWords at few
  omega

/-- A request that is sent is read back whole exactly if the count can tell all its words. As many
words as a packet takes can be asked for in one packet and answered in one. -/
theorem frame_announces_iff (request : BlockRequest) (packetSize : Nat) :
    (∀ frame, (Request.transferBlock request).encode packetSize = .ok frame →
      (Reader.block.Takes frame request.onWire ↔ request.access.words.length ≤ 65535)) ∧
    (9 ≤ packetSize → request.access.size ≤ maxWords packetSize →
      (∃ frame, (Request.transferBlock request).encode packetSize = .ok frame) ∧
      ∀ status words,
        words.length = (if request.access.isRead then request.access.count.toNat else 0) →
        (answer request.access.count status words).length ≤ packetSize) := by
  refine ⟨fun frame encoded ↦ ?_, fun room few ↦
    ⟨exists_frame room few, fun status words ↦ length_answer_le room few status⟩⟩
  obtain ⟨-, -, rfl⟩ := Request.encode_eq_ok_iff.mp encoded
  exact takes_frame_iff request

/-- A write of two words in a packet that takes no more, and the answer to a read of as many. -/
theorem frame_announces_of_full :
    Reader.block.Takes [0x06, 0, 2, 0, 0x0D, 1, 0, 0, 0, 0xFF, 0xFF, 0xFF, 0xFF]
      ⟨0, .access, 0xC, .write [1, 0xFFFFFFFF]⟩ ∧
    (answer 2 0x01 [1, 0xFFFFFFFF]).length ≤ 13 :=
  ⟨((frame_announces_iff ⟨0, .access, 0xC, .write [1, 0xFFFFFFFF]⟩ 13).1
      [0x06, 0, 2, 0, 0x0D, 1, 0, 0, 0, 0xFF, 0xFF, 0xFF, 0xFF] (by decide)).mpr (by decide),
    ((frame_announces_iff ⟨0, .access, 0xC, .read 2⟩ 13).2 (by decide) (by decide)).2 0x01
      [1, 0xFFFFFFFF] rfl⟩

/-- A write of one word more than the count can tell. -/
def oneTooMany : BlockRequest := ⟨0, .access, 0xC, .write (List.replicate 65536 0)⟩

/-- In a packet that is large enough the write is sent, but its last word is not announced: firmware
reads a write of all other words and finds the last one behind it. -/
theorem not_frame_announces_oneTooMany :
    ∃ frame, (Request.transferBlock oneTooMany).encode 262149 = .ok frame ∧
      Reader.block frame =
        some (⟨0, .access, 0xC, .write (List.replicate 65535 0)⟩, [0, 0, 0, 0]) ∧
      ¬ Reader.block.Takes frame oneTooMany.onWire := by
  have size : oneTooMany.access.words.length = 65536 := List.length_replicate
  refine ⟨_, Request.encode_eq_ok_iff.mpr ⟨rfl, ?_, rfl⟩, ?_, fun taken ↦ ?_⟩
  · rw [Frame.length_transferBlock, size]
  · have first : oneTooMany.announced.onWire =
        ⟨0, .access, 0xC, .write (List.replicate 65535 0)⟩ :=
      congrArg (fun words ↦ BlockRequest.mk 0 .access 0xC (.write words)) List.take_replicate
    have last : oneTooMany.access.words.drop 65535 = [0] := List.drop_replicate
    rw [read_announced, first, last]
    rfl
  · have few := (takes_frame_iff oneTooMany).mp taken
    rw [size] at few
    omega

end BlockRequest

end DebugProbe
