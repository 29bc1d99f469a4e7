import DebugProbe.Command.Request
import DebugProbe.Proofs.Bounds.Writer
import DebugProbe.Proofs.Line.Packing
import DebugProbe.Proofs.Probe.Conversation
import DebugProbe.Proofs.Probe.Frames

/-!
# Frames written in place

A frame is written into a buffer of the size of a packet, each command by a writer of its own that
first asks for room and then puts its parameters to positions. Every writer asks for just as much
room as it uses. So the frame of a request is the same at every packet size at which it fits, and at
all others the request is refused as too large.
-/

namespace DebugProbe

open Writer (put copy number ensure tail each fills_ensure)

/-- Writes a parameter of one byte. -/
def Writer.single (byte : UInt8) : Writer Nat := do
  ensure 1
  put 0 byte
  return 1

/-- Writes an entry of a transfer command at the beginning of a buffer. -/
def Transfer.toBytes (transfer : Transfer) : Writer Nat := do
  ensure transfer.size
  put 0 (requestByte transfer.port transfer.isRead transfer.address)
  match transfer.value with
  | some value => copy 1 (Bytes.ofUInt32 value)
  | none => pure ()
  return transfer.size

/-- Writes a sequence of a JTAG command to a position. -/
def JtagSequence.toBytes (position : Nat) (sequence : JtagSequence) : Writer Nat := do
  put position sequence.header
  let data ← Checked.part (Bytes.ofBits sequence.tdi) 0 sequence.byteCount
  copy (position + 1) data
  return 1 + sequence.byteCount

/-- Writes a word of a block command to a position. -/
def BlockRequest.putWord (position : Nat) (word : UInt32) : Writer Nat := do
  number position (Bytes.ofUInt32 word)
  return 4

namespace Request

/-- Writes the parameters of a request and gives their length. -/
def toBytes : Request → Writer Nat
  | infoText item => .single item.code
  | infoCapabilities => .single Info.capabilitiesCode
  | infoTraceBufferSize => .single Info.traceBufferSizeCode
  | infoPacketCount => .single Info.packetCountCode
  | infoPacketSize => .single Info.packetSizeCode
  | hostStatus light on => do
    ensure 2
    put 0 (match light with | .connected => 0 | .running => 1)
    put 1 (if on then 1 else 0)
    return 2
  | connect mode => .single (match mode with | .default => 0 | .swd => 1 | .jtag => 2)
  | writeAbort dapIndex value => do
    ensure 5
    put 0 dapIndex
    copy 1 (Bytes.ofUInt32 value)
    return 5
  | pins request => do
    ensure 6
    put 0 request.output
    put 1 request.select
    number 2 (Bytes.ofUInt32 request.wait)
    return 6
  | clock hertz => do
    ensure 4
    number 0 (Bytes.ofUInt32 hertz)
    return 4
  | lineSequence sequence => do
    let length := LineSequence.byteCount sequence.bitCount
    ensure (1 + length)
    put 0 sequence.bitCount
    let data ← Checked.part sequence.data 0 length
    copy 1 data
    return 1 + length
  | swdConfigure settings => do
    ensure 1
    let turnaround ← Checked.minus (min (max settings.turnaround.toNat 1) 4) 1
    put 0 (UInt8.ofNat (turnaround + if settings.dataPhase then 4 else 0))
    return 1
  | jtagScan scan => do
    let size := 1 + (scan.sequences.map fun sequence ↦ 1 + sequence.byteCount).foldr (· + ·) 0
    ensure size
    put 0 (UInt8.ofNat scan.sequences.length)
    each JtagSequence.toBytes scan.sequences 1
  | jtagConfigure chain => do
    ensure (1 + chain.irLengths.length)
    put 0 (UInt8.ofNat chain.irLengths.length)
    copy 1 chain.irLengths
    return chain.irLengths.length + 1
  | transferConfigure settings => do
    ensure 5
    put 0 settings.idleCycles
    number 1 (Bytes.ofUInt16 settings.waitRetry)
    number 3 (Bytes.ofUInt16 settings.matchRetry)
    return 5
  | transfer request =>
    if TransferRequest.maxCount < request.transfers.length then do
      throw (.frameTooLarge request.requestSize ((← get).length + 1))
    else do
      let size ← Checked.minus request.requestSize 1
      ensure size
      put 0 request.dapIndex
      put 1 (UInt8.ofNat request.transfers.length)
      each (fun position transfer ↦ tail position transfer.toBytes) request.transfers 2
  | transferBlock request => do
    let size := 4 + 4 * request.access.words.length
    ensure size
    put 0 request.dapIndex
    number 1 (Bytes.ofUInt16 request.access.count)
    put 3 (Transfer.requestByte request.port request.access.isRead request.address)
    let _ ← each BlockRequest.putWord request.access.words 4
    return size
  | writeChunk chunk =>
    if FirmwareChunk.maxData < chunk.data.length then
      throw (.frameTooLarge (FirmwareChunk.headerSize + chunk.data.length)
        (FirmwareChunk.headerSize + FirmwareChunk.maxData))
    else do
      let size := FirmwareChunk.headerSize - 1 + chunk.data.length
      ensure size
      number 0 (Bytes.ofUInt32 chunk.offset)
      put 4 (UInt8.ofNat chunk.data.length)
      copy 5 chunk.data
      return size
  | checksum length => do
    ensure 4
    copy 0 (Bytes.ofUInt32 length)
    return 4
  | disconnect | resetTarget | transferAbort | enterBootloader | handshake | reboot => return 0

/-- Writes the frame of a request into a buffer of the size of a packet and cuts what is left. -/
def encodeInto (request : Request) (packetSize : Nat) : Option (Except FramingError Bytes) :=
  if packetSize = 0 then some (.error (.frameTooLarge 1 0))
  else
    let writer : Writer Nat := do
      put 0 request.command.code
      let size ← tail 1 request.toBytes
      return size + 1
    (writer.outcome? (List.replicate packetSize 0)).map fun
      | (.ok size, frame) => .ok (frame.take size)
      | (.error error, _) => .error error

/-- The two kinds of requests whose counts can outgrow a byte, when they do. -/
def Oversized : Request → Prop
  | transfer request => TransferRequest.maxCount < request.transfers.length
  | writeChunk chunk => FirmwareChunk.maxData < chunk.data.length
  | _ => False

end Request

/-! ## What the writers lay down -/

theorem Writer.fills_single (byte : UInt8) : (single byte).Fills [byte] :=
  fills_ensure rfl (.andThen (.put byte))

theorem Transfer.lays_toBytes (transfer : Transfer) (position : Nat) :
    (tail position transfer.toBytes).Lays position transfer.payload transfer.payload.length := by
  apply Writer.Lays.tail
  have room : transfer.size ≤ 0 + transfer.payload.length := by simp
  refine .ensure room (.putThen ?_)
  rw [Transfer.length_payload]
  rcases transfer with ⟨port, address, value⟩
  cases value with
  | none => exact .pure _
  | some value => exact .andThen (.copy _)

theorem JtagSequence.length_payload (sequence : JtagSequence) :
    sequence.payload.length = 1 + sequence.byteCount := by
  rw [payload, List.length_cons, Bytes.length_ofBits, Nat.add_comm]
  rfl

theorem JtagSequence.lays_toBytes (sequence : JtagSequence) (position : Nat) :
    (sequence.toBytes position).Lays position sequence.payload sequence.payload.length := by
  rw [length_payload]
  exact .putThen (.part (Bytes.length_ofBits _) (.andThen (.copy _)))

theorem BlockRequest.lays_putWord (word : UInt32) (position : Nat) :
    (putWord position word).Lays position (Bytes.ofUInt32 word) (Bytes.ofUInt32 word).length := by
  rw [Bytes.length_ofUInt32]
  exact .andThen (.number _)

/-- The size that a scan asks room for is the length of what it writes. -/
theorem JtagScan.length_payload (scan : JtagScan) : scan.payload.length =
    1 + (scan.sequences.map fun sequence ↦ 1 + sequence.byteCount).foldr (· + ·) 0 := by
  have all (sequences : List JtagSequence) : (sequences.flatMap JtagSequence.payload).length =
      (sequences.map fun sequence ↦ 1 + sequence.byteCount).foldr (· + ·) 0 := by
    induction sequences with
    | nil => rfl
    | cons sequence others ih =>
      rw [List.flatMap_cons, List.length_append, JtagSequence.length_payload, ih]
      rfl
  rw [payload, List.length_cons, all, Nat.add_comm]

namespace Request

/-- Every writer asks for just as much room as it uses, and fills it with the parameters. -/
theorem fills_toBytes {request : Request} (inRange : ¬request.Oversized) :
    request.toBytes.Fills request.payload := by
  cases request with
  | infoText _ | infoCapabilities | infoTraceBufferSize | infoPacketCount | infoPacketSize
  | connect _ => exact Writer.fills_single _
  | hostStatus light on => exact fills_ensure rfl (.putThen (.andThen (.put _)))
  | writeAbort dapIndex value => exact fills_ensure rfl (.putThen (.andThen (.copy _)))
  | pins request =>
    exact fills_ensure rfl (.putThen (.putThen (.andThen (.number _))))
  | clock hertz => exact fills_ensure rfl (.andThen (.number _))
  | lineSequence sequence =>
    have size : 1 + LineSequence.byteCount sequence.bitCount =
        (lineSequence sequence).payload.length := by
      rw [payload, LineSequence.payload, List.length_cons, sequence.length_data, Nat.add_comm]
      rfl
    refine fills_ensure size (.putThen (.part sequence.length_data ?_))
    rw [← size]
    exact .andThen (.copy _)
  | swdConfigure settings =>
    have positive : 1 ≤ min (max settings.turnaround.toNat 1) 4 := by omega
    exact fills_ensure rfl (.found (if_pos positive) (.andThen (.put _)))
  | jtagScan scan =>
    have total : 1 + (scan.sequences.flatMap JtagSequence.payload).length =
        (jtagScan scan).payload.length := Nat.add_comm _ _
    refine fills_ensure scan.length_payload.symm (.putThen ?_)
    rw [← total]
    exact .each fun sequence _ ↦ sequence.lays_toBytes
  | jtagConfigure chain =>
    have size : 1 + chain.irLengths.length = chain.payload.length := Nat.add_comm _ _
    exact fills_ensure size (.putThen (.andThen (.copy _)))
  | transferConfigure settings =>
    exact fills_ensure rfl (.putThen (.bind (.number _) (.andThen (.number _))))
  | transfer request =>
    have size : request.requestSize - 1 = (transfer request).payload.length := by
      rw [← Frame.length_transfer]
      rfl
    have header : 1 ≤ request.requestSize := by
      rw [← Frame.length_transfer]
      exact Nat.succ_pos _
    have total : 2 + (request.transfers.flatMap Transfer.payload).length =
        (transfer request).payload.length := Nat.add_comm _ _
    have few : ¬TransferRequest.maxCount < request.transfers.length := inRange
    show (ite _ _ _ : Writer Nat).Fills _
    rw [if_neg few]
    refine .found (if_pos header) (fills_ensure size (.putThen (.putThen ?_)))
    rw [← total]
    exact .each fun transfer _ ↦ transfer.lays_toBytes
  | transferBlock request =>
    have size : 4 + 4 * request.access.words.length = (transferBlock request).payload.length := by
      have whole := Frame.length_transferBlock request
      rw [frame, List.length_cons] at whole
      omega
    refine fills_ensure size (.putThen (.bind (.number _) (.putThen ?_)))
    rw [← size]
    exact .andThen (.each fun word _ ↦ BlockRequest.lays_putWord word)
  | writeChunk chunk =>
    have size : FirmwareChunk.headerSize - 1 + chunk.data.length =
        (writeChunk chunk).payload.length := by
      show 5 + _ = (Bytes.ofUInt32 chunk.offset ++ _ :: chunk.data).length
      rw [List.length_append, Bytes.length_ofUInt32, List.length_cons]
      omega
    have few : ¬FirmwareChunk.maxData < chunk.data.length := inRange
    show (ite _ _ _ : Writer Nat).Fills _
    rw [if_neg few]
    refine fills_ensure size (.bind (.number _) (.putThen ?_))
    rw [← size]
    exact .andThen (.copy _)
  | checksum length => exact fills_ensure rfl (.andThen (.copy _))
  | disconnect | resetTarget | transferAbort | enterBootloader | handshake | reboot =>
    intro buffer
    rfl

theorem overflow_eq_none_iff {request : Request} {packetSize : Nat} :
    request.overflow? packetSize = none ↔ ¬request.Oversized := by
  cases request with
  | transfer request => simp [overflow?, Oversized]
  | writeChunk chunk => simp [overflow?, Oversized]
  | _ => exact iff_of_true rfl not_false

/-- A writer of a request that outgrows its counts writes nothing and complains as the encoder
does. -/
theorem toBytes_of_oversized {request : Request} (oversized : request.Oversized)
    (buffer : Bytes) : ∃ size max,
      request.overflow? (buffer.length + 1) = some (.frameTooLarge size max) ∧
      request.toBytes.outcome? buffer = some (.error (.frameTooLarge size max), buffer) := by
  cases request with
  | transfer request =>
    have many : TransferRequest.maxCount < request.transfers.length := oversized
    refine ⟨_, _, if_pos many, ?_⟩
    show Checked.outcome? (ite _ _ _ : Writer Nat) buffer = _
    rw [if_pos many]
    rfl
  | writeChunk chunk =>
    have many : FirmwareChunk.maxData < chunk.data.length := oversized
    refine ⟨_, _, if_pos many, ?_⟩
    show Checked.outcome? (ite _ _ _ : Writer Nat) buffer = _
    rw [if_pos many]
    rfl
  | _ => exact oversized.elim

/-- Behind the command code the parameters are written into what is left of the packet. -/
theorem encodeInto_succ (request : Request) (room : Nat) :
    request.encodeInto (room + 1) =
      (request.toBytes.outcome? (List.replicate room 0)).map fun
        | (.ok size, rest) => .ok (request.command.code :: rest.take size)
        | (.error error, _) => .error error := by
  have code : (put 0 request.command.code).outcome? (List.replicate (room + 1) 0) =
      some (.ok (), request.command.code :: List.replicate room 0) := rfl
  have parameters : (tail 1 request.toBytes).outcome?
      (request.command.code :: List.replicate room 0) =
        (request.toBytes.outcome? (List.replicate room 0)).map fun (result, rest) ↦
          (result, request.command.code :: rest) :=
    Writer.outcome?_tail (Nat.succ_le_succ (Nat.zero_le _))
  unfold encodeInto
  rw [if_neg (Nat.succ_ne_zero room)]
  dsimp only
  rw [Checked.outcome?_bind, code, Option.bind_some]
  dsimp only
  rw [Checked.outcome?_bind, parameters]
  rcases request.toBytes.outcome? (List.replicate room 0) with - | ⟨result, rest⟩
  · rfl
  · cases result with
    | ok size => rfl
    | error error => rfl

/-- Written in place, the frame of a request is what the encoder says, at every packet size. -/
theorem encodeInto_eq_encode (request : Request) (packetSize : Nat) :
    request.encodeInto packetSize = some (request.encode packetSize) := by
  cases packetSize with
  | zero => rfl
  | succ room =>
    rw [encodeInto_succ]
    by_cases oversized : request.Oversized
    · obtain ⟨size, max, overflow, refused⟩ :=
        toBytes_of_oversized oversized (List.replicate room 0)
      rw [List.length_replicate] at overflow
      unfold encode
      rw [if_neg (Nat.succ_ne_zero room), overflow, refused]
      rfl
    · have filled := fills_toBytes oversized (List.replicate room 0)
      have length : request.frame.length = request.payload.length + 1 := rfl
      unfold encode
      rw [if_neg (Nat.succ_ne_zero room), overflow_eq_none_iff.mpr oversized, filled,
        List.length_replicate]
      dsimp only
      by_cases short : room < request.payload.length
      · rw [if_pos short, if_neg (by omega)]
        rfl
      · rw [if_neg short, if_pos (by omega)]
        show some (Except.ok (request.command.code ::
          (request.payload ++ _).take request.payload.length)) = _
        rw [List.take_left]
        rfl

/-- A request whose counts outgrow their bytes fits into no packet. -/
theorem encode_of_oversized {request : Request} (oversized : request.Oversized)
    (packetSize : Nat) :
    ∃ size max, request.encode packetSize = .error (.frameTooLarge size max) := by
  apply encode_eq_error_iff.mpr
  intro inRange
  exact absurd oversized (overflow_eq_none_iff.mp inRange)

/-- Any other request is encoded as its frame wherever that fits. -/
theorem encode_of_inRange {request : Request} (inRange : ¬request.Oversized) (packetSize : Nat) :
    (request.frame.length ≤ packetSize → request.encode packetSize = .ok request.frame) ∧
    (packetSize < request.frame.length →
      ∃ size max, request.encode packetSize = .error (.frameTooLarge size max)) := by
  have overflow : request.overflow? packetSize = none := overflow_eq_none_iff.mpr inRange
  exact ⟨fun fits ↦ encode_eq_ok_iff.mpr ⟨overflow, fits, rfl⟩,
    fun large ↦ encode_eq_error_iff.mpr fun _ ↦ large⟩

/-- A command writes the frame of its request or nothing, and never more than a packet. -/
theorem frames_send {σ : Type} [Transport σ] (request : Request) (recorded : Recorded σ) :
    ∃ written : List Bytes,
      ((Probe.send request).outcome recorded).2.frames = recorded.frames ++ written ∧
      ∀ frame ∈ written, request.encode (Transport.packetSize recorded) = .ok frame ∧
        frame.length ≤ Transport.packetSize recorded := by
  have recording : ((Probe.send request).outcome recorded).2.history = recorded.history ++
      if (request.encode (Transport.packetSize recorded)).isOk then [.frame request.frame]
      else [] := by
    have exchanged := (@Recorded.history_exchange σ _ recorded request).left
    unfold Probe.send Action.mapError
    rw [Action.outcome_ofFun]
    split
    · next outcome => rw [outcome] at exchanged; exact exchanged
    · next outcome => rw [outcome] at exchanged; exact exchanged
  unfold Recorded.frames
  rw [recording, List.filterMap_append]
  refine ⟨_, rfl, fun frame member ↦ ?_⟩
  cases encoded : request.encode (Transport.packetSize recorded) with
  | error error =>
    rw [encoded] at member
    nomatch member
  | ok sent =>
    rw [encoded] at member
    obtain ⟨-, fits, rfl⟩ := encode_eq_ok_iff.mp encoded
    obtain rfl : frame = request.frame := List.mem_singleton.mp member
    exact ⟨rfl, fits⟩

/-- Encoding does not depend on the packet size and fits. Written in place by the writer of its
command, a request gives one frame, which begins with the command code, at all packet sizes that
have room for it, and is refused as too large at all others; requests that outgrow their counts are
refused at every size. So a command writes no more than a packet, and never a part of a frame. -/
theorem encode_uniform (request : Request) :
    (∀ packetSize, request.encodeInto packetSize = some (request.encode packetSize)) ∧
    (request.Oversized → ∀ packetSize,
      ∃ size max, request.encode packetSize = .error (.frameTooLarge size max)) ∧
    (¬request.Oversized → ∃ frame : Bytes, frame.head? = some request.command.code ∧
      ∀ packetSize,
        (frame.length ≤ packetSize → request.encode packetSize = .ok frame) ∧
        (packetSize < frame.length →
          ∃ size max, request.encode packetSize = .error (.frameTooLarge size max))) ∧
    ∀ (σ : Type) [Transport σ] (recorded : Recorded σ), ∃ written : List Bytes,
      ((Probe.send request).outcome recorded).2.frames = recorded.frames ++ written ∧
      ∀ frame ∈ written, request.encode (Transport.packetSize recorded) = .ok frame ∧
        frame.length ≤ Transport.packetSize recorded :=
  ⟨request.encodeInto_eq_encode, encode_of_oversized,
    fun inRange ↦ ⟨request.frame, rfl, encode_of_inRange inRange⟩,
    fun _ _ recorded ↦ frames_send request recorded⟩

end Request

end DebugProbe
