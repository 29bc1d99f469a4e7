import DebugProbe.Proofs.Firmware.Update
import DebugProbe.Simulator.Probe

/-!
# How chunks tile an image

The chunks of an image lie one behind the other, none of them is empty, and together they are the
image. Their size respects every limit that leaves room for a byte: the configured one, the one of
the bootloader, the packet and the byte that holds the length. An update that gets as far as the
query for the checksum wrote exactly these chunks before it.
-/

namespace DebugProbe

/-- Chunks tile an image, and respect the limits that leave room for a byte. -/
structure FirmwareImage.Tiled (image : FirmwareImage) (limits : List Nat)
    (chunks : List FirmwareChunk) : Prop where
  /-- The first chunk is where the image begins. -/
  begins : chunks.head?.map FirmwareChunk.offset = some 0
  /-- Every other one is where the one before it ends. -/
  adjoins : chunks.IsChain fun chunk next ↦
    next.offset.toNat = chunk.offset.toNat + chunk.data.length
  data : chunks.flatMap FirmwareChunk.data = image.data
  /-- No chunk is empty, and its length is told by a single byte. -/
  sized : ∀ chunk ∈ chunks, 1 ≤ chunk.data.length ∧ chunk.data.length ≤ FirmwareChunk.maxData ∧
    (chunk.payload.byteAt 4).toNat = chunk.data.length
  within : ∀ limit ∈ limits, 1 ≤ limit → ∀ chunk ∈ chunks, chunk.data.length ≤ limit

namespace FirmwareImage

/-- No chunk is empty or longer than it should be. -/
private theorem length_of_mem_chunksFrom {size offset : Nat} {data : Bytes} {chunk : FirmwareChunk}
    (member : chunk ∈ chunksFrom size offset data) :
    1 ≤ chunk.data.length ∧ chunk.data.length ≤ max size 1 := by
  induction offset, data using chunksFrom.induct size with
  | case1 offset =>
    rw [chunksFrom] at member
    exact absurd member List.not_mem_nil
  | case2 offset byte rest length ih =>
    rw [chunksFrom] at member
    rcases List.mem_cons.mp member with rfl | later
    · show 1 ≤ ((byte :: rest).take (max size 1)).length ∧ _
      rw [List.length_take, List.length_cons]
      omega
    · exact ih later

/-- The first of several chunks is where they begin, and every other one is where the one before it
ends. -/
private theorem placed_chunksFrom (size : Nat) {offset : Nat} {data : Bytes}
    (fits : offset + data.length < UInt32.size) :
    (∀ first ∈ (chunksFrom size offset data).head?, first.offset.toNat = offset) ∧
      (chunksFrom size offset data).IsChain fun chunk next ↦
        next.offset.toNat = chunk.offset.toNat + chunk.data.length := by
  induction offset, data using chunksFrom.induct size with
  | case1 offset =>
    rw [chunksFrom]
    exact ⟨fun first isFirst ↦ absurd isFirst (Option.not_mem_none first), .nil⟩
  | case2 offset byte rest length ih =>
    rw [List.length_cons] at fits
    have here : (UInt32.ofNat offset).toNat = offset :=
      UInt32.toNat_ofNat_of_lt (by omega)
    rw [chunksFrom]
    by_cases whole : rest.drop (length - 1) = []
    · -- This is the last chunk.
      rw [whole, chunksFrom]
      exact ⟨fun first isFirst ↦ Option.some.inj isFirst ▸ here, .singleton _⟩
    · have long : length - 1 < rest.length := by
        rw [List.drop_eq_nil_iff] at whole
        omega
      have some : 1 ≤ length := Nat.le_max_right size 1
      have left : offset + length + (rest.drop (length - 1)).length < UInt32.size := by
        rw [List.length_drop]
        omega
      obtain ⟨first, chain⟩ := ih left
      refine ⟨fun chunk isFirst ↦ Option.some.inj isFirst ▸ here, List.isChain_cons.mpr ⟨?_, chain⟩⟩
      intro next isNext
      rw [first next isNext]
      show _ = (UInt32.ofNat offset).toNat + ((byte :: rest).take length).length
      rw [here, List.length_take, List.length_cons]
      omega

/-- An image of which every byte has a place is tiled by its chunks of any size that fits. -/
theorem tiled_chunks (image : FirmwareImage) {size : Nat} {limits : List Nat}
    (placed : image.data.length < UInt32.size) (some : 1 ≤ size)
    (few : size ≤ FirmwareChunk.maxData) (within : ∀ limit ∈ limits, 1 ≤ limit → size ≤ limit) :
    image.Tiled limits (image.chunks size) := by
  have sized {chunk : FirmwareChunk} (member : chunk ∈ image.chunks size) :
      1 ≤ chunk.data.length ∧ chunk.data.length ≤ size := by
    have bounds := length_of_mem_chunksFrom member
    rw [Nat.max_eq_left some] at bounds
    exact bounds
  have fits : 0 + image.data.length < UInt32.size := by omega
  obtain ⟨-, chain⟩ := placed_chunksFrom size fits
  refine ⟨?_, chain, image.data_chunks size, fun chunk member ↦ ?_, ?_⟩
  · unfold chunks
    cases bytes : image.data with
    | nil => exact absurd bytes image.data_ne_nil
    | cons byte rest =>
      rw [chunksFrom]
      rfl
  · obtain ⟨notEmpty, atMost⟩ := sized member
    have small := Nat.le_trans atMost few
    refine ⟨notEmpty, small, ?_⟩
    show (UInt8.ofNat chunk.data.length).toNat = chunk.data.length
    exact UInt8.toNat_ofNat_of_lt (Nat.lt_of_le_of_lt small (by decide))
  · intro limit isLimit room chunk member
    exact Nat.le_trans (sized member).2 (within limit isLimit room)

end FirmwareImage

namespace Updater

/-- The size of chunks leaves no chunk empty, and respects every limit that leaves room for a
byte. -/
theorem chunkSize_bounds (configured advertised packetSize : Nat) :
    1 ≤ chunkSize configured advertised packetSize ∧
      chunkSize configured advertised packetSize ≤ FirmwareChunk.maxData ∧
      ∀ limit ∈ [configured, advertised, packetSize - FirmwareChunk.headerSize], 1 ≤ limit →
        chunkSize configured advertised packetSize ≤ limit := by
  have most : FirmwareChunk.maxData = 255 := rfl
  unfold chunkSize
  refine ⟨by omega, by omega, ?_⟩
  simp only [List.forall_mem_cons, List.not_mem_nil, false_imp_iff, implies_true, and_true]
  exact ⟨fun _ ↦ by omega, fun _ ↦ by omega, fun _ ↦ by omega⟩

variable {image : FirmwareImage}

/-- Only the chunks come before the query for the checksum, and only the reboot comes after it. -/
private theorem split_of_sum {chunks : List FirmwareChunk} {early later : List Request}
    {sum : Request} {length : UInt32} (isSum : sum.command = .firmwareChecksum)
    (all : early ++ sum :: later = chunks.map .writeChunk ++ [.checksum length, .reboot]) :
    early = chunks.map .writeChunk ∧ sum = .checksum length ∧ later = [.reboot] := by
  induction chunks generalizing early with
  | nil =>
    cases early with
    | nil =>
      obtain ⟨here, after⟩ := List.cons.inj all
      exact ⟨rfl, here, after⟩
    | cons first more =>
      obtain ⟨-, after⟩ := List.cons.inj all
      have isReboot : sum ∈ [Request.reboot] :=
        after ▸ List.mem_append_right more List.mem_cons_self
      rw [List.mem_singleton.mp isReboot] at isSum
      nomatch isSum
  | cons chunk rest ih =>
    cases early with
    | nil =>
      obtain ⟨here, -⟩ := List.cons.inj all
      rw [here] at isSum
      nomatch isSum
    | cons first more =>
      obtain ⟨here, after⟩ := List.cons.inj all
      obtain ⟨isChunk, isQuery, isReboot⟩ := ih after
      exact ⟨by rw [here, isChunk, List.map_cons], isQuery, isReboot⟩

/-- Steps among which the checksum is queried begin with all chunks. -/
private theorem steps_of_sum {size : Nat} {steps : List Turn} {sum : Turn}
    (order : steps.map (·.request) <+: remaining image size) (member : sum ∈ steps)
    (isSum : sum.request.command = .firmwareChecksum) :
    ∃ early rest, steps = early ++ sum :: rest ∧
      early.map (·.request) = (image.chunks size).map .writeChunk ∧
      sum.request = .checksum (UInt32.ofNat image.data.length) ∧
      ∀ later ∈ rest, later.request = .reboot := by
  obtain ⟨early, rest, rfl⟩ := List.append_of_mem member
  obtain ⟨unsent, all⟩ := order
  rw [List.map_append, List.map_cons, List.append_assoc, List.cons_append] at all
  obtain ⟨chunks, isQuery, isReboot⟩ := split_of_sum isSum all
  refine ⟨early, rest, rfl, chunks, isQuery, fun later member ↦ ?_⟩
  have known : later.request ∈ [Request.reboot] :=
    isReboot ▸ List.mem_append_left unsent (List.mem_map_of_mem member)
  exact List.mem_singleton.mp known

variable {σ : Type} [Transport σ]

/-- An update was granted a handshake, and packets had a size right after it. -/
structure Shook (updater : Updater σ) (handshake : Handshake) (packetSize : Nat)
    (next : Updater σ) : Prop where
  ok : handshake.status = .ok
  exchanged : ∃ (opening steps : List Turn) (written : Bool) (ready : σ),
    Exchanged updater.transport (opening ++ [⟨.handshake, written, .ok handshake⟩]) ready ∧
    Transport.packetSize ready = packetSize ∧ Exchanged ready steps next.transport

/-- The frames of exchanges that were written. -/
private def written (turns : List Turn) : List Bytes :=
  (turns.filter (·.written)).map (·.request.frame)

private theorem written_append (first second : List Turn) :
    written (first ++ second) = written first ++ written second := by
  unfold written
  rw [List.filter_append, List.map_append]

/-- Of the frames of other commands none carries the code. -/
private theorem filter_written_of_other {turns : List Turn} {command : Command}
    (other : ∀ turn ∈ turns, turn.request.command ≠ command) :
    (written turns).filter (fun frame ↦ frame.byteAt 0 = command.code) = [] := by
  rw [List.filter_eq_nil_iff]
  intro frame member code
  obtain ⟨turn, wrote, rfl⟩ := List.mem_map.mp member
  exact other turn (List.mem_filter.mp wrote).1 (Command.code_injective (of_decide_eq_true code))

/-- Chunks that were all written are seen in the frames. -/
private theorem filter_written_of_chunks {turns : List Turn} {chunks : List FirmwareChunk}
    (isWritten : ∀ turn ∈ turns, turn.written = true)
    (isChunk : turns.map (·.request) = chunks.map .writeChunk) :
    (written turns).filter (fun frame ↦ frame.byteAt 0 = Command.firmwareChunk.code) =
      chunks.map fun chunk ↦ (Request.writeChunk chunk).frame := by
  have frames : written turns = chunks.map fun chunk ↦ (Request.writeChunk chunk).frame := by
    have mapped := congrArg (List.map Request.frame) isChunk
    rw [List.map_map, List.map_map] at mapped
    unfold written
    rw [List.filter_eq_self.mpr isWritten]
    exact mapped
  rw [frames, List.filter_eq_self]
  intro frame member
  obtain ⟨chunk, -, rfl⟩ := List.mem_map.mp member
  rfl

/-- An update that queried the checksum had written the chunks of the image before. -/
private theorem Ran.tiled {updater next : Updater (Recorded σ)} {front : List Turn} {last : Turn}
    (ran : Ran image updater.config updater.transport front last next.transport) {sum : Bytes}
    (member : sum ∈ written (front ++ [last]))
    (isSum : sum.byteAt 0 = Command.firmwareChecksum.code) :
    ∃ handshake packetSize chunks, updater.Shook handshake packetSize next ∧
      (written (front ++ [last])).filter
        (fun frame ↦ frame.byteAt 0 = Command.firmwareChunk.code) =
        chunks.map (fun chunk ↦ (Request.writeChunk chunk).frame) ∧
      image.Tiled [updater.config.chunkSize, handshake.chunkSize.toNat,
        packetSize - FirmwareChunk.headerSize] chunks ∧
      ∃ length : UInt32, sum = (Request.checksum length).frame ∧
        length.toNat = image.data.length := by
  obtain ⟨entry, shakes, steps, all, phases, cut⟩ := ran.phases
  have answered := ran.exchanged.written
  rw [all] at member answered ⊢
  obtain ⟨turn, wrote, rfl⟩ := List.mem_map.mp member
  have command : turn.request.command = .firmwareChecksum := Command.code_injective isSum
  have opening {turn : Turn} (early : turn ∈ entry :: shakes) :
      turn.request = .enterBootloader ∨ turn.request = .handshake := by
    rcases List.mem_cons.mp early with rfl | shake
    · exact .inl phases.entered
    · exact .inr (phases.shaken turn shake)
  have isStep : turn ∈ steps := by
    rcases List.mem_append.mp (show turn ∈ (entry :: shakes) ++ steps from
      (List.mem_filter.mp wrote).1) with early | late
    · rcases opening early with other | other
      · rw [other] at command
        nomatch command
      · rw [other] at command
        nomatch command
    · exact late
  obtain ⟨earlier, handshake, shown, ready, isOpening, ok, fits, before, after, order⟩ :=
    cut (List.ne_nil_of_mem isStep)
  obtain ⟨early, rest, rfl, isChunk, isQuery, isReboot⟩ := steps_of_sum order isStep command
  have small := handshake.maxImageSize.toNat_lt
  have placed : image.data.length < UInt32.size := Nat.lt_of_le_of_lt fits small
  obtain ⟨some, few, within⟩ := chunkSize_bounds updater.config.chunkSize
    handshake.chunkSize.toNat (Transport.packetSize ready)
  refine ⟨handshake, _, _, ⟨ok, earlier, _, shown, ready, isOpening ▸ before, rfl, after⟩, ?_,
    image.tiled_chunks placed some few within, _, congrArg Request.frame isQuery,
    UInt32.toNat_ofNat_of_lt placed⟩
  rw [← List.cons_append, written_append, written_append, List.filter_append, List.filter_append]
  rw [filter_written_of_other, filter_written_of_chunks _ isChunk, filter_written_of_other,
    List.append_nil, List.nil_append]
  · rintro later isLater
    rcases List.mem_cons.mp isLater with rfl | reboots
    · rw [command]
      nofun
    · rw [isReboot later reboots]
      nofun
  · -- A chunk was granted, so its frame was written.
    intro chunk isEarly
    have granted : chunk.Granted image := by
      refine phases.stepped chunk ?_
      rw [List.dropLast_append_of_ne_nil (List.cons_ne_nil _ _)]
      exact List.mem_append_left _ isEarly
    obtain ⟨reply, result, -⟩ := granted
    exact answered chunk (by simp [isEarly]) (by rw [result]; rfl)
  · intro other isOther
    rcases opening isOther with same | same
    · rw [same]
      nofun
    · rw [same]
      nofun

/-- An update that gets as far as the query for the checksum writes chunks that tile the image. They
respect the configured size, the size that the bootloader offered and the packets, as far as these
leave room for a byte, and the checksum is queried for as many bytes as the image has. -/
theorem chunks_tile (image : FirmwareImage) (updater : Updater (Recorded σ)) :
    ∃ frames,
      ((update image).outcome updater).2.transport.frames = updater.transport.frames ++ frames ∧
      ∀ sum ∈ frames, sum.byteAt 0 = Command.firmwareChecksum.code →
        ∃ handshake packetSize chunks,
          updater.Shook handshake packetSize ((update image).outcome updater).2 ∧
          frames.filter (fun frame ↦ frame.byteAt 0 = Command.firmwareChunk.code) =
            chunks.map (fun chunk ↦ (Request.writeChunk chunk).frame) ∧
          image.Tiled [updater.config.chunkSize, handshake.chunkSize.toNat,
            packetSize - FirmwareChunk.headerSize] chunks ∧
          ∃ length : UInt32, sum = (Request.checksum length).frame ∧
            length.toNat = image.data.length := by
  have ran := run_course image updater
  unfold Action.Yields at ran
  unfold update
  rw [Action.outcome_ofFun]
  rcases outcome : (run image).outcome updater with ⟨result, after⟩
  rw [outcome] at ran
  cases result with
  | ok value =>
    obtain ⟨front, last, ran, -⟩ := ran
    have ran : Ran image updater.config updater.transport front last
      ({ after with stage := .idle } : Updater (Recorded σ)).transport := ran
    exact ⟨_, ran.exchanged.frames, fun sum member isSum ↦ ran.tiled member isSum⟩
  | error cause =>
    obtain ⟨front, last, ran, -⟩ := ran
    have ran : Ran image updater.config updater.transport front last
      ({ after with stage := .failed } : Updater (Recorded σ)).transport := ran
    exact ⟨_, ran.exchanged.frames, fun sum member isSum ↦ ran.tiled member isSum⟩

/-- An image of five bytes. -/
private def fiveBytes : FirmwareImage := ⟨[0x10, 0x20, 0x30, 0x40, 0x50], List.cons_ne_nil _ _⟩

/-- A simulated probe that is to be updated in chunks of two bytes. -/
private def bootable : Updater (Recorded Simulator) where
  transport := { inner := {} }
  config := { chunkSize := 2 }

/-- An update of a simulated probe queries the checksum, after chunks that tile the image. -/
theorem chunks_tile_bootable :
    ∃ frames, ((update fiveBytes).outcome bootable).2.transport.frames = frames ∧
      ∃ sum ∈ frames, sum.byteAt 0 = Command.firmwareChecksum.code ∧ ∃ chunks,
        frames.filter (fun frame ↦ frame.byteAt 0 = Command.firmwareChunk.code) =
          chunks.map (fun chunk ↦ (Request.writeChunk chunk).frame) ∧
        fiveBytes.Tiled [2] chunks := by
  obtain ⟨frames, all, tiles⟩ := chunks_tile fiveBytes bootable
  have asked : (Request.checksum 5).frame ∈
      ((update fiveBytes).outcome bootable).2.transport.frames := by decide +kernel
  rw [all] at asked
  have member : (Request.checksum 5).frame ∈ frames := asked
  obtain ⟨handshake, packetSize, chunks, -, written, tiled, -⟩ := tiles _ member rfl
  refine ⟨frames, all, _, member, rfl, chunks, written, { tiled with within := ?_ }⟩
  intro limit isLimit
  exact tiled.within limit (List.mem_cons.mpr (.inl (List.mem_singleton.mp isLimit)))

end Updater

end DebugProbe
