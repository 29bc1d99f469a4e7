import DebugProbe.Command.Request
import DebugProbe.Proofs.Bounds.Checked
import DebugProbe.Proofs.Memory.Lanes

/-!
# Answers read by position

The decoders take bytes out of an answer by their positions, and only some of the positions are
checked where they are used: the others rest on checks of the length that were made before, here or
by the caller. The decoders below have no outcome where they reach past the end, and they have the
outcome of the library's decoders on every answer.
-/

namespace DebugProbe

namespace Checked

variable {σ ε α β : Type}

/-- The bytes of a number at a position; a number that is not all there is refused. -/
def numberAt (payload : Bytes) (position count : Nat) : Checked σ FramingError Nat :=
  if position + count ≤ payload.length then
    return Bytes.number ((payload.drop position).take count)
  else throw .unexpectedAnswer

/-- Refuses a payload of fewer than `needed` bytes. -/
def ensureLength (payload : Bytes) (needed : Nat) : Checked σ FramingError Unit :=
  ofExcept (requireLength payload needed)

/-- The status at the beginning of a payload. -/
def status (payload : Bytes) : Checked σ FramingError Status := do
  let byte ← item payload 0
  ofExcept (Status.ofByte byte)

/-- Reads an optional text. -/
def infoText (payload : Bytes) : Checked σ FramingError (Option String) := do
  let size ← item payload 0
  if size.toNat = 0 then return none
  else
    ensureLength payload (1 + size.toNat)
    let content ← part payload 1 (1 + size.toNat)
    match String.fromUTF8? content.toByteArray with
    | some content => return some (Info.trimZeros content)
    | none => throw .invalidString

/-- Reads a number of `size` bytes. -/
def infoNumber (size : Nat) (payload : Bytes) : Checked σ FramingError Nat := do
  let announced ← item payload 0
  if announced.toNat ≠ size then throw .unexpectedAnswer
  else
    ensureLength payload (1 + size)
    numberAt payload 1 size

/-- Reads capability flags. -/
def infoCapabilities (payload : Bytes) : Checked σ FramingError CapabilityFlags := do
  let size ← item payload 0
  if size.toNat = 0 then throw .unexpectedAnswer
  else
    ensureLength payload (1 + size.toNat)
    let first ← item payload 1
    let second ← if 2 ≤ size.toNat then item payload 2 else pure 0
    return ⟨UInt16.ofNat (first.toNat + 256 * second.toNat)⟩

/-- Reads the answer to a connect request. -/
def connectReply (payload : Bytes) : Checked σ FramingError ConnectReply := do
  let byte ← item payload 0
  if byte = 0 then return .failed
  else if byte = 1 then return .swd
  else if byte = 2 then return .jtag
  else throw (.connectRefused byte)

/-- Reads the answer to a reset request. -/
def resetReply (payload : Bytes) : Checked σ FramingError ResetReply := do
  ensureLength payload 2
  let status ← status payload
  let executed ← item payload 1
  if executed = 0 then return ⟨status, false⟩
  else if executed = 1 then return ⟨status, true⟩
  else throw .unexpectedAnswer

/-- Reads the answer to a scan. -/
def scanReply (scan : JtagScan) (payload : Bytes) : Checked σ FramingError ScanReply := do
  match ← status payload with
  | .error => return ⟨.error, []⟩
  | .ok =>
    ensureLength payload (1 + scan.captureSize)
    return ⟨.ok, ← part payload 1 (1 + scan.captureSize)⟩

/-- Takes the data of completed transfers out of a payload, from a position on. -/
def transferData (payload : Bytes) : (transfers : List Transfer) → (position : Nat) →
    Checked σ FramingError (List (Option UInt32))
  | [], _ => return []
  | transfer :: rest, position =>
    if transfer.isRead then do
      ensureLength payload (position + 4)
      let word ← numberAt payload position 4
      let data ← transferData payload rest (position + 4)
      return some (UInt32.ofNat word) :: data
    else do
      let data ← transferData payload rest position
      return none :: data

/-- Reads the answer to a transfer request. -/
def transferReply (request : TransferRequest) (payload : Bytes) :
    Checked σ FramingError TransferReply := do
  let count ← item payload 0
  if request.transfers.length < count.toNat then throw .unexpectedAnswer
  else
    let status ← item payload 1
    let completed ← part request.transfers 0 count.toNat
    let data ← transferData payload completed 2
    return ⟨count.toNat, .ofByte status, data⟩

/-- Takes words out of a payload, from a position on. -/
def blockWords (payload : Bytes) : (count position : Nat) → Checked σ FramingError (List UInt32)
  | 0, _ => return []
  | count + 1, position => do
    let word ← numberAt payload position 4
    let words ← blockWords payload count (position + 4)
    return UInt32.ofNat word :: words

/-- Reads the answer to a block request. -/
def blockReply (request : BlockRequest) (payload : Bytes) : Checked σ FramingError BlockReply := do
  let count ← numberAt payload 0 2
  if request.access.count.toNat < count then throw .unexpectedAnswer
  else
    let status ← item payload 2
    if request.access.isRead then
      ensureLength payload (3 + 4 * count)
      return ⟨count, .ofByte status, ← blockWords payload count 3⟩
    else return ⟨count, .ofByte status, []⟩

/-- Reads a handshake. -/
def handshake (payload : Bytes) : Checked σ FramingError Handshake := do
  match ← status payload with
  | .error => return ⟨.error, 0, 0, 0⟩
  | .ok =>
    ensureLength payload 8
    let version ← item payload 1
    let chunkSize ← numberAt payload 2 2
    let maxImageSize ← numberAt payload 4 4
    return ⟨.ok, version, UInt16.ofNat chunkSize, UInt32.ofNat maxImageSize⟩

/-- Reads a status with the word behind it. -/
def statusWord (build : Status → UInt32 → α) (payload : Bytes) : Checked σ FramingError α := do
  let status ← status payload
  ensureLength payload 5
  return build status (UInt32.ofNat (← numberAt payload 1 4))

/-- Reads what follows the command code of an answer. -/
def parse : (request : Request) → (payload : Bytes) → Checked σ FramingError request.Response
  | .infoText _, payload => infoText payload
  | .infoCapabilities, payload => infoCapabilities payload
  | .infoTraceBufferSize, payload => return UInt32.ofNat (← infoNumber 4 payload)
  | .infoPacketCount, payload => return UInt8.ofNat (← infoNumber 1 payload)
  | .infoPacketSize, payload => return UInt16.ofNat (← infoNumber 2 payload)
  | .hostStatus _ _, _ => return ()
  | .connect _, payload => connectReply payload
  | .resetTarget, payload => resetReply payload
  | .pins _, payload => return ⟨← item payload 0⟩
  | .jtagScan scan, payload => scanReply scan payload
  | .transfer request, payload => transferReply request payload
  | .transferBlock request, payload => blockReply request payload
  | .transferAbort, _ => return ()
  | .handshake, payload => handshake payload
  | .writeChunk _, payload => statusWord ChunkReply.mk payload
  | .checksum _, payload => statusWord ChecksumReply.mk payload
  | .disconnect, payload | .writeAbort _ _, payload | .clock _, payload
  | .lineSequence _, payload | .swdConfigure _, payload | .jtagConfigure _, payload
  | .transferConfigure _, payload | .enterBootloader, payload | .reboot, payload =>
    status payload

/-- Reads the frame that answers a request. -/
def decode (request : Request) (frame : Bytes) : Checked σ FramingError request.Response :=
  match frame with
  | [] => throw (.tooShort (request.minReplyLength + 1) 0)
  | code :: payload =>
    if code ≠ request.command.code then throw (.commandMismatch request.command.code code)
    else do
      ensureLength payload request.minReplyLength
      parse request payload

/-! ### Results of readers -/

/-- The checked action stays inside, changes nothing and ends in this way. -/
def Gives (checked : Checked σ ε α) (result : Except ε α) : Prop :=
  ∀ state, checked.outcome? state = some (result, state)

namespace Gives

variable {checked : Checked σ ε α} {result : Except ε α}

theorem ofExcept (result : Except ε α) : (ofExcept result : Checked σ ε α).Gives result :=
  fun _ ↦ rfl

theorem ok (value : α) : (pure value : Checked σ ε α).Gives (.ok value) := fun _ ↦ rfl

theorem error (error : ε) : (throw error : Checked σ ε α).Gives (.error error) := fun _ ↦ rfl

protected theorem bind {next : α → Checked σ ε β} {after : α → Except ε β}
    (first : checked.Gives result)
    (second : ∀ value, result = .ok value → (next value).Gives (after value)) :
    (checked >>= next).Gives (result >>= after) := by
  intro state
  rw [outcome?_bind, first state]
  cases result with
  | ok value => exact second value rfl state
  | error error => rfl

/-- What a reader gives is used by what follows. -/
theorem given {value : α} {next : α → Checked σ ε β} {after : Except ε β}
    (first : checked.Gives (.ok value)) (second : (next value).Gives after) :
    (checked >>= next).Gives after := by
  intro state
  rw [outcome?_bind, first state]
  exact second state

/-- What was read may be changed. -/
protected theorem map {change : α → β} (first : checked.Gives result) :
    (do return change (← checked) : Checked σ ε β).Gives (result.map change) := by
  intro state
  rw [outcome?_bind, first state]
  cases result <;> rfl

theorem found {value? : Option α} {value : α} {next : α → Checked σ ε β} {result : Except ε β}
    (there : value? = some value) (second : (next value).Gives result) :
    (found value? >>= next).Gives result :=
  fun state ↦ (outcome?_found_bind there next state).trans (second state)

/-- A byte that is there is the one at its position. -/
theorem byte {payload : Bytes} {position : Nat} {next : UInt8 → Checked σ ε β}
    {result : Except ε β} (inside : position < payload.length)
    (second : (next (payload.byteAt position)).Gives result) :
    (item payload position >>= next).Gives result := by
  refine found ?_ second
  rw [Bytes.byteAt, List.getD_eq_getElem?_getD, List.getElem?_eq_getElem inside]
  rfl

theorem part {items : List α} {start count : Nat} {next : List α → Checked σ ε β}
    {result : Except ε β} (inside : start + count ≤ items.length)
    (second : (next ((items.drop start).take count)).Gives result) :
    (part items start (start + count) >>= next).Gives result := by
  refine found (if_pos ⟨Nat.le_add_right _ _, inside⟩) ?_
  rw [Nat.add_sub_cancel_left]
  exact second

theorem number {payload : Bytes} {position count : Nat} {next : Nat → Checked σ FramingError β}
    {result : Except FramingError β} (inside : position + count ≤ payload.length)
    (second : (next (Bytes.number ((payload.drop position).take count))).Gives result) :
    (numberAt payload position count >>= next).Gives result := by
  unfold numberAt
  rw [if_pos inside]
  exact second

/-- What a check of the length asked for is there afterwards. -/
theorem ensure {payload : Bytes} {needed : Nat} {next : Unit → Checked σ FramingError β}
    {after : Unit → Except FramingError β}
    (second : needed ≤ payload.length → (next ()).Gives (after ())) :
    (ensureLength payload needed >>= next).Gives (requireLength payload needed >>= after) :=
  (ofExcept _).bind fun _ passed ↦ second (requireLength_eq_ok_iff.mp passed)

/-- A check of the length that was made before passes again. -/
theorem ensured {payload : Bytes} {needed : Nat} {next : Unit → Checked σ FramingError β}
    {result : Except FramingError β} (enough : needed ≤ payload.length)
    (second : (next ()).Gives result) : (ensureLength payload needed >>= next).Gives result := by
  unfold ensureLength
  rw [requireLength_eq_ok_iff.mpr enough]
  exact second

end Gives

end Checked

namespace Bytes

/-- Bytes from a position on begin with the one at the position. -/
theorem take_drop_succ {bytes : Bytes} {position : Nat} (inside : position < bytes.length)
    (count : Nat) : (bytes.drop position).take (count + 1) =
      bytes.byteAt position :: (bytes.drop (position + 1)).take count := by
  rw [List.drop_eq_getElem_cons inside, List.take_succ_cons, byteAt, List.getD_eq_getElem?_getD,
    List.getElem?_eq_getElem inside]
  rfl

/-- Two bytes are a number of 16 bits. -/
theorem toNat_uint16At (bytes : Bytes) (position : Nat) :
    (bytes.uint16At position).toNat = number ((bytes.drop position).take 2) := by
  have few : ((bytes.drop position).take 2).length ≤ 2 := List.length_take_le 2 _
  have small := number_lt_capacity ((bytes.drop position).take 2)
  apply UInt16.toNat_ofNat_of_lt'
  show _ < 65536
  generalize ((bytes.drop position).take 2).length = count at few small
  match count, few with
  | 0, _ => exact Nat.lt_of_lt_of_le small (by decide)
  | 1, _ => exact Nat.lt_of_lt_of_le small (by decide)
  | 2, _ => exact Nat.lt_of_lt_of_le small (by decide)

/-- The flags are one byte or two; the second one counts as zero if it is not announced. -/
theorem number_flags {bytes : Bytes} {size : Nat} (positive : ¬size = 0)
    (enough : 1 + size ≤ bytes.length) :
    number ((bytes.drop 1).take (min size 2)) =
      (bytes.byteAt 1).toNat + 256 * (if 2 ≤ size then bytes.byteAt 2 else 0).toNat := by
  by_cases two : 2 ≤ size
  · rw [Nat.min_eq_right two, if_pos two, take_drop_succ (by omega), take_drop_succ (by omega)]
    simp [number]
  · have one : size = 1 := by omega
    subst one
    rw [if_neg two, Nat.min_eq_left (by decide), take_drop_succ (by omega)]
    simp [number]

end Bytes

namespace Checked

section Readers

variable {σ α : Type} {payload : Bytes}

theorem gives_status (held : 0 < payload.length) :
    (status payload : Checked σ FramingError Status).Gives (Status.ofByte (payload.byteAt 0)) :=
  .byte held (.ofExcept _)

theorem gives_infoText (held : 0 < payload.length) :
    (infoText payload : Checked σ FramingError _).Gives (Info.text payload) := by
  unfold infoText Info.text
  refine .byte held ?_
  dsimp only
  split
  · exact .ok none
  · refine .ensure fun enough ↦ .part enough ?_
    cases String.fromUTF8? ((payload.drop 1).take (payload.byteAt 0).toNat).toByteArray with
    | none => exact .error _
    | some content => exact .ok _

theorem gives_infoNumber (held : 0 < payload.length) (size : Nat) :
    (infoNumber size payload : Checked σ FramingError _).Gives (Info.number size payload) := by
  unfold infoNumber Info.number
  refine .byte held ?_
  dsimp only
  split
  · exact .error _
  · refine .ensure fun enough ↦ ?_
    unfold numberAt
    rw [if_pos enough]
    exact .ok _

theorem gives_infoCapabilities (held : 0 < payload.length) :
    (infoCapabilities payload : Checked σ FramingError _).Gives (Info.capabilities payload) := by
  unfold infoCapabilities Info.capabilities
  refine .byte held ?_
  dsimp only
  split
  · exact .error _
  · next positive =>
    refine .ensure fun enough ↦ .byte (by omega) ?_
    rw [Bytes.number_flags positive enough]
    split
    · exact .byte (by omega) (.ok _)
    · exact .ok _

theorem gives_connectReply (held : 0 < payload.length) (mode : PortMode) :
    (connectReply payload : Checked σ FramingError _).Gives
      ((Request.connect mode).parse payload) := by
  unfold connectReply Request.parse
  refine .byte held ?_
  dsimp only
  split
  · exact .ok _
  · split
    · exact .ok _
    · split
      · exact .ok _
      · exact .error _

theorem gives_resetReply (held : 2 ≤ payload.length) :
    (resetReply payload : Checked σ FramingError _).Gives (Request.resetTarget.parse payload) := by
  unfold resetReply Request.parse
  refine .ensured held ((gives_status (by omega)).bind fun status _ ↦ .byte held ?_)
  split
  · exact .ok _
  · split
    · exact .ok _
    · exact .error _

theorem gives_scanReply (held : 0 < payload.length) (scan : JtagScan) :
    (scanReply scan payload : Checked σ FramingError _).Gives
      ((Request.jtagScan scan).parse payload) := by
  unfold scanReply Request.parse
  refine (gives_status held).bind fun status _ ↦ ?_
  cases status with
  | error => exact .ok _
  | ok => exact .ensure fun enough ↦ .part enough (.ok _)

theorem gives_transferData (transfers : List Transfer) (position : Nat) :
    (transferData payload transfers position : Checked σ FramingError _).Gives
      (TransferRequest.readData payload transfers position) := by
  induction transfers generalizing position with
  | nil => exact .ok []
  | cons transfer rest ih =>
    unfold transferData TransferRequest.readData
    split
    · exact .ensure fun enough ↦ .number enough ((ih (position + 4)).bind fun _ _ ↦ .ok _)
    · exact (ih position).bind fun _ _ ↦ .ok _

theorem gives_transferReply (held : 2 ≤ payload.length) (request : TransferRequest) :
    (transferReply request payload : Checked σ FramingError _).Gives (request.parse payload) := by
  unfold transferReply TransferRequest.parse
  refine .byte (by omega) ?_
  dsimp only
  split
  · exact .error _
  · next few =>
    refine .byte held ?_
    refine .found (if_pos ⟨Nat.zero_le _, Nat.le_of_not_lt few⟩) ?_
    exact (gives_transferData _ 2).bind fun _ _ ↦ .ok _

theorem gives_blockWords {count position : Nat} (inside : position + 4 * count ≤ payload.length) :
    (blockWords payload count position : Checked σ FramingError _).Gives
      (.ok (Bytes.words count (payload.drop position))) := by
  induction count generalizing position with
  | zero => exact .ok []
  | succ count ih =>
    have fewer : position + 4 + 4 * count ≤ payload.length := by omega
    refine .number (by omega) (.given (ih fewer) ?_)
    rw [Bytes.words, List.drop_drop]
    exact .ok _

theorem gives_blockReply (held : 3 ≤ payload.length) (request : BlockRequest) :
    (blockReply request payload : Checked σ FramingError _).Gives (request.parse payload) := by
  unfold blockReply BlockRequest.parse
  refine .number (by omega) ?_
  rw [← Bytes.toNat_uint16At]
  dsimp only
  split
  · exact .error _
  · refine .byte held ?_
    split
    · exact .ensure fun enough ↦ .given (gives_blockWords enough) (.ok _)
    · exact .ok _

theorem gives_handshake (held : 0 < payload.length) :
    (handshake payload : Checked σ FramingError _).Gives (Handshake.parse payload) := by
  unfold handshake Handshake.parse
  refine (gives_status held).bind fun status _ ↦ ?_
  cases status with
  | error => exact .ok _
  | ok =>
    exact .ensure fun enough ↦ .byte (by omega) (.number (by omega) (.number (by omega) (.ok _)))

theorem gives_statusWord (held : 0 < payload.length) (build : Status → UInt32 → α) :
    (statusWord build payload : Checked σ FramingError _).Gives (do
      let status ← Status.ofByte (payload.byteAt 0)
      requireLength payload 5
      return build status (payload.uint32At 1)) :=
  (gives_status held).bind fun _ _ ↦ .ensure fun enough ↦ .number enough (.ok _)

/-- A payload with the bytes that every answer has is read without reaching past its end. -/
theorem gives_parse (request : Request) (held : request.minReplyLength ≤ payload.length) :
    (parse request payload : Checked σ FramingError _).Gives (request.parse payload) := by
  cases request with
  | infoText item => exact gives_infoText held
  | infoCapabilities => exact gives_infoCapabilities held
  | infoTraceBufferSize => exact (gives_infoNumber held 4).map
  | infoPacketCount => exact (gives_infoNumber held 1).map
  | infoPacketSize => exact (gives_infoNumber held 2).map
  | hostStatus light on => exact .ok ()
  | connect mode => exact gives_connectReply held mode
  | resetTarget => exact gives_resetReply held
  | pins request => exact .byte held (.ok _)
  | jtagScan scan => exact gives_scanReply held scan
  | transfer request => exact gives_transferReply held request
  | transferBlock request => exact gives_blockReply held request
  | transferAbort => exact .ok ()
  | handshake => exact gives_handshake held
  | writeChunk chunk => exact gives_statusWord held ChunkReply.mk
  | checksum length => exact gives_statusWord held ChecksumReply.mk
  | disconnect | writeAbort _ _ | clock _ | lineSequence _ | swdConfigure _ | jtagConfigure _
  | transferConfigure _ | enterBootloader | reboot => exact gives_status held

/-- No answer makes a decoder reach past its end: on every frame the decoder that checks its
positions has the outcome of the library's. -/
theorem gives_decode (request : Request) (frame : Bytes) :
    (decode request frame : Checked σ FramingError _).Gives (request.decode frame) := by
  match frame with
  | [] => exact .error _
  | code :: payload =>
    unfold decode Request.decode
    dsimp only
    split
    · exact .error _
    · exact .ensure fun enough ↦ gives_parse request enough

end Readers

end Checked

end DebugProbe
