import DebugProbe.Proofs.Line.Packet
import DebugProbe.Proofs.Probe.Truthful
import DebugProbe.Proofs.Simulator.Truthful

/-!
# Waveforms

What a probe clocks out is told by the frames that it gets: each counts its bits and holds them in
whole bytes, the first one in the least significant place. As long as the probe grants every line
sequence, each action on the line succeeds, and the frames put together are its waveform bit for
bit. An action may take several frames; what follows is added behind.
-/

namespace DebugProbe

section Frames

/-- The levels that a frame drives, if it is a line sequence with just as many bytes as its bits
need. A count of zero stands for 256 bits. -/
def Frame.levels? : (frame : Bytes) → Option (List Bool)
  | code :: count :: data =>
    let bits := if count = 0 then 256 else count.toNat
    if code = Command.swjSequence.code ∧ data.length = Bytes.sizeOfBits bits then
      some ((Bytes.bits data).take bits)
    else none
  | _ => none

/-- A sequence has just as many bytes as its bits need. -/
theorem LineSequence.length_data_eq (sequence : LineSequence) :
    sequence.data.length = Bytes.sizeOfBits sequence.bitLength := by
  rw [sequence.length_data]
  unfold bitLength
  split
  · rfl
  · rfl

/-- A sequence drives as many levels as it counts bits. -/
theorem LineSequence.length_levels (sequence : LineSequence) :
    sequence.levels.length = sequence.bitLength := by
  have bytes := sequence.length_data_eq
  have bits (data : Bytes) : (Bytes.bits data).length = 8 * data.length := by
    simp [Bytes.bits, Nat.mul_comm]
  unfold levels
  rw [List.length_take, bits, bytes]
  unfold Bytes.sizeOfBits
  omega

/-- The frame of a sequence drives its levels. -/
theorem Frame.levels?_lineSequence (sequence : LineSequence) :
    levels? (Request.lineSequence sequence).frame = some sequence.levels :=
  if_pos ⟨rfl, sequence.length_data_eq⟩

/-- A frame that drives the line begins with the code of line sequences. -/
theorem Frame.exists_of_levels {frame : Bytes} {levels : List Bool}
    (isSequence : levels? frame = some levels) :
    ∃ count data, frame = 0x12 :: count :: data := by
  rcases frame with _ | ⟨code, _ | ⟨count, data⟩⟩
  · nomatch isSequence
  · nomatch isSequence
  · unfold levels? at isSequence
    obtain ⟨⟨rfl, -⟩, -⟩ := Option.ite_none_right_eq_some.mp isSequence
    exact ⟨count, data, rfl⟩

end Frames

/-- A probe that is ready has room for the frame of a 64-bit sequence, answers every sequence OK and
is ready again. -/
structure GrantsSequences {σ : Type} [Transport σ] (ready : σ → Prop) : Prop where
  room : ∀ {transport : σ}, ready transport → 10 ≤ Transport.packetSize transport
  converse : ∀ {transport : σ} {frame : Bytes} {levels : List Bool}, ready transport →
    Frame.levels? frame = some levels → (Probe.converse frame).Yields transport
      (fun reply next ↦ (∃ padding, reply = 0x12 :: 0x00 :: padding) ∧ ready next)
      fun _ _ ↦ False

/-- Nothing but frames of line sequences was asked of a transport, and they drive these waves, one
frame each. -/
def Recorded.ClocksOut {σ : Type} (recorded : Recorded σ) (waves : List (List Bool))
    (next : Recorded σ) : Prop :=
  ∃ frames : List Bytes, next.history = recorded.history ++ frames.map .frame ∧
    frames.map Frame.levels? = waves.map some

/-- The exchange in which a sequence is granted. -/
def Turn.granted (sequence : LineSequence) : Turn := ⟨.lineSequence sequence, true, .ok .ok⟩

variable {σ : Type} [Transport σ] {ready : σ → Prop}

/-- Granted sequences are what is clocked out. -/
theorem Recorded.clocksOut_of_conversation {recorded next : Recorded σ}
    {sequences : List LineSequence}
    (conversation : Conversation recorded (sequences.map fun sequence ↦ .turn (.granted sequence))
      next) :
    recorded.ClocksOut (sequences.map LineSequence.levels) next := by
  refine ⟨sequences.map fun sequence ↦ (Request.lineSequence sequence).frame, ?_, ?_⟩
  · rw [conversation.saw.history, List.flatMap_map, List.map_map, List.map_eq_flatMap]
    rfl
  · rw [List.map_map, List.map_map]
    exact List.map_congr_left fun sequence _ ↦ Frame.levels?_lineSequence sequence

/-- A write does to the transport inside what it would do without the record. -/
theorem Recorded.yields_write {recorded : Recorded σ} {frame : Bytes}
    {done : Unit → Recorded σ → Prop} {failed : TransportError → Recorded σ → Prop} :
    (Transport.write frame).Yields recorded done failed ↔
      (Transport.write frame).Yields recorded.inner
        (fun answer next ↦ done answer ({ recorded with inner := next }.push (.frame frame)))
        (fun error next ↦ failed error ({ recorded with inner := next }.push (.frame frame))) := by
  have same : (Transport.write frame).outcome recorded =
      (((Transport.write frame).outcome recorded.inner).1,
        { recorded with inner := ((Transport.write frame).outcome recorded.inner).2 }.push
          (.frame frame)) := rfl
  unfold Action.Yields
  rw [same]
  rcases (Transport.write frame : Action σ TransportError Unit).outcome recorded.inner with
    ⟨result, after⟩
  cases result <;> rfl

/-- A record does not change what a probe grants. -/
theorem GrantsSequences.recorded (grants : GrantsSequences ready) :
    GrantsSequences fun recorded : Recorded σ ↦ ready recorded.inner where
  room := grants.room
  converse := by
    intro recorded frame levels isReady isSequence
    have inner := grants.converse isReady isSequence
    unfold Probe.converse Probe.packetSize at inner ⊢
    simp only [Action.yields_bind, Action.yields_get, Action.yields_pure] at inner ⊢
    rw [Recorded.yields_write]
    exact inner.imp (fun _ _ read ↦ Action.yields_within.mpr read) fun _ _ never ↦ never

namespace Action

/-- As long as the probe grants every sequence, the action succeeds and clocks out these waves, one
frame each. -/
def Clocks (ready : σ → Prop) (waves : List (List Bool)) (action : Action σ CommandError Unit) :
    Prop :=
  ∀ state, ready state → action.Yields state
    (fun _ next ↦ ready next ∧ ∃ sequences : List LineSequence,
      Conversation state (sequences.map fun sequence ↦ .turn (.granted sequence)) next ∧
        sequences.map LineSequence.levels = waves)
    fun _ _ ↦ False

theorem clocks_pure : (pure () : Action σ CommandError Unit).Clocks ready [] :=
  fun state isReady ↦ ⟨isReady, [], .nil state, rfl⟩

/-- What follows is clocked out behind. -/
theorem Clocks.bind {action : Action σ CommandError Unit} {next : Unit → Action σ CommandError Unit}
    {waves more : List (List Bool)} (first : action.Clocks ready waves)
    (second : (next ()).Clocks ready more) : (action >>= next).Clocks ready (waves ++ more) := by
  intro state isReady
  rw [yields_bind]
  refine (first state isReady).imp ?_ fun _ _ never ↦ never
  rintro _ middle ⟨still, sequences, before, rfl⟩
  refine (second middle still).imp ?_ fun _ _ never ↦ never
  rintro _ last ⟨again, others, after, rfl⟩
  refine ⟨again, sequences ++ others, ?_, List.map_append⟩
  rw [List.map_append]
  exact before.append after

/-- The action clocks out a waveform, in as many frames as it likes. -/
def Drives (ready : σ → Prop) (levels : List Bool) (action : Action σ CommandError Unit) : Prop :=
  ∃ waves, action.Clocks ready waves ∧ waves.flatten = levels

theorem Clocks.drives {action : Action σ CommandError Unit} {levels : List Bool}
    (clocks : action.Clocks ready [levels]) : action.Drives ready levels :=
  ⟨_, clocks, List.flatten_singleton⟩

theorem Drives.bind {action : Action σ CommandError Unit} {next : Unit → Action σ CommandError Unit}
    {levels more : List Bool} (first : action.Drives ready levels)
    (second : (next ()).Drives ready more) : (action >>= next).Drives ready (levels ++ more) := by
  obtain ⟨waves, clocks, rfl⟩ := first
  obtain ⟨others, follows, rfl⟩ := second
  exact ⟨waves ++ others, clocks.bind follows, List.flatten_append⟩

end Action

namespace Line

section Granted

variable (grants : GrantsSequences ready)
include grants

/-- A sequence of up to 64 bits is granted. -/
theorem sendSequence_clocks {sequence : LineSequence} (few : sequence.bitLength ≤ 64) :
    (Probe.sendSequence sequence).Clocks ready [sequence.levels] := by
  intro state isReady
  -- The code and the count take a byte each, the bits up to eight.
  have small : (Request.lineSequence sequence).frame.length ≤ 10 := by
    show sequence.data.length + 2 ≤ 10
    rw [sequence.length_data_eq]
    unfold Bytes.sizeOfBits
    omega
  have encoded : (Request.lineSequence sequence).encode (Transport.packetSize state) =
      .ok (Request.lineSequence sequence).frame :=
    Request.encode_eq_ok_iff.mpr ⟨rfl, Nat.le_trans small (grants.room isReady), rfl⟩
  have exchanged : (Probe.exchange (.lineSequence sequence)).Yields state
      (fun reply next ↦ reply = .ok ∧ ready next) fun _ _ ↦ False := by
    rw [Probe.yields_exchange rfl, encoded]
    refine (grants.converse isReady (Frame.levels?_lineSequence sequence)).imp ?_
      fun _ _ never ↦ never
    rintro reply next ⟨⟨padding, rfl⟩, again⟩
    exact ⟨rfl, again⟩
  unfold Probe.sendSequence Probe.send
  rw [Action.yields_bind, Action.yields_mapError]
  refine exchanged.with_outcome.imp ?_ fun _ _ never ↦ never.1
  rintro reply next ⟨⟨rfl, again⟩, outcome⟩
  have written :
      true = ((Request.lineSequence sequence).encode (Transport.packetSize state)).isOk := by
    rw [encoded]
    rfl
  exact ⟨again, [sequence], .turn ⟨written, outcome⟩ (.nil next), rfl⟩

/-- A pattern of up to 64 cycles is clocked out in one frame. -/
theorem pattern_clocks (bits : UInt64) {cycles : Nat} (positive : 0 < cycles) (few : cycles ≤ 64) :
    (pattern cycles bits).Clocks ready [digits cycles bits.toNat] := by
  obtain ⟨sequence, sends, driven⟩ := exists_pattern (σ := σ) bits positive few
  rw [sends, ← driven]
  apply sendSequence_clocks grants
  rw [← sequence.length_levels, driven, length_digits]
  exact few

/-- Idle cycles keep the line low, at most 64 in a frame. -/
theorem idle_clocks (cycles : Nat) :
    ∃ waves, (idle cycles).Clocks ready waves ∧ waves.flatten = low cycles ∧
      waves.length = (cycles + 63) / 64 ∧ ∀ wave ∈ waves, 1 ≤ wave.length ∧ wave.length ≤ 64 := by
  induction cycles using idle.induct with
  | case1 =>
    unfold idle
    exact ⟨[], Action.clocks_pure, rfl, rfl, List.forall_mem_nil _⟩
  | case2 cycles some ih =>
    obtain ⟨waves, clocks, whole, count, sizes⟩ := ih
    -- One frame is full or takes all that is left, and the others follow it.
    have first : (pattern (min cycles 64) 0).Clocks ready [low (min cycles 64)] := by
      rw [← digits_zero]
      exact pattern_clocks grants 0 (by omega) (Nat.min_le_right cycles 64)
    refine ⟨low (min cycles 64) :: waves, ?_, ?_, ?_, ?_⟩
    · unfold idle
      rw [if_neg some]
      exact first.bind clocks
    · rw [List.flatten_cons, whole]
      unfold low
      rw [List.replicate_append_replicate]
      congr 1
      omega
    · rw [List.length_cons, count]
      omega
    · refine List.forall_mem_cons.mpr ⟨?_, sizes⟩
      unfold low
      rw [List.length_replicate]
      omega

theorem idle_drives (cycles : Nat) : (idle cycles).Drives ready (low cycles) := by
  obtain ⟨waves, clocks, whole, -⟩ := idle_clocks grants cycles
  exact ⟨waves, clocks, whole⟩

/-- A line reset keeps the line high and then low for any number of cycles. -/
theorem reset_drives (idleCycles : Nat) :
    (reset idleCycles).Drives ready (high 51 ++ low idleCycles) := by
  have cycles : resetCycles = 51 := rfl
  have bits : resetBits.toNat = 2 ^ 51 - 1 := by decide
  unfold reset
  rw [cycles]
  split
  · next few =>
    have clocks := pattern_clocks grants resetBits (Nat.lt_add_right idleCycles (by decide)) few
    rw [bits, digits_ones] at clocks
    exact clocks.drives
  · have ones : (pattern 51 resetBits).Drives ready (high 51) := by
      have clocks : (pattern 51 resetBits).Clocks ready [digits 51 resetBits.toNat] :=
        pattern_clocks grants resetBits (by decide) (by decide)
      rw [bits, digits_ones 51 0] at clocks
      exact clocks.drives
    exact ones.bind (idle_drives grants idleCycles)

theorem targetSelect_clocks (targetSel : UInt32) :
    (targetSelect targetSel).Clocks ready [targetSelectLevels targetSel] := by
  rw [← digits_targetSelect]
  exact pattern_clocks grants _ (by decide) (by decide)

/-- A dormant port is woken by a line reset, the sequence from JTAG to dormant, eight high cycles,
the alert, the activation code and a line reset. -/
theorem dormantToSwd_drives :
    dormantToSwd.Drives ready (high 51 ++ digits 31 0x33BBBBBA ++ high 8 ++
      digits 128 0x19BC0EA2E3DDAFE986852D956209F392 ++ digits 12 0x1A0 ++ (high 51 ++ low 2)) := by
  have fixed {cycles : Nat} (bits : UInt64) (positive : 0 < cycles) (few : cycles ≤ 64) :
      (pattern cycles bits).Drives ready (digits cycles bits.toNat) :=
    (pattern_clocks grants bits positive few).drives
  have ones : (pattern 8 0xFF).Drives ready (high 8) := fixed 0xFF (by decide) (by decide)
  have alert : (patterns 64 alertBits).Drives ready
      (digits 128 0x19BC0EA2E3DDAFE986852D956209F392) :=
    ⟨_, (pattern_clocks grants _ (by decide) (by decide)).bind
      ((pattern_clocks grants _ (by decide) (by decide)).bind Action.clocks_pure), rfl⟩
  have drives : dormantToSwd.Drives ready _ :=
    (reset_drives grants 0).bind ((fixed jtagToDormantBits (by decide) (by decide)).bind
      (ones.bind (alert.bind ((fixed swdActivationBits (by decide) (by decide)).bind
        (reset_drives grants idleAfterReset)))))
  simp only [List.append_assoc]
  exact drives

/-- A target on a multi-drop line is connected by waking its port, selecting it and two idle
cycles. -/
theorem connectMultidrop_drives (targetSel : UInt32) :
    (do dormantToSwd; targetSelect targetSel; idle idleAfterReset :
      Action σ CommandError Unit).Drives ready (high 51 ++ digits 31 0x33BBBBBA ++ high 8 ++
        digits 128 0x19BC0EA2E3DDAFE986852D956209F392 ++ digits 12 0x1A0 ++ (high 51 ++ low 2) ++
        targetSelectLevels targetSel ++ low 2) := by
  rw [List.append_assoc]
  exact (dormantToSwd_drives grants).bind
    ((targetSelect_clocks grants targetSel).drives.bind (idle_drives grants idleAfterReset))

end Granted

/-- What is clocked out is right bit for bit. -/
structure Waveforms (recorded : Recorded σ) : Prop where
  /-- A sequence of 1 to 64 bits is clocked out in one frame, the lowest bit first. -/
  sendBits : ∀ (bitLength : UInt8) (bits : UInt64), 1 ≤ bitLength.toNat → bitLength.toNat ≤ 64 →
    (Probe.sendBits bitLength bits).Yields recorded
      (fun _ next ↦ recorded.ClocksOut [digits bitLength.toNat bits.toNat] next) fun _ _ ↦ False
  idle : ∀ cycles, (Line.idle cycles).Yields recorded
    (fun _ next ↦ ∃ waves, recorded.ClocksOut waves next ∧ waves.flatten = low cycles ∧
      waves.length = (cycles + 63) / 64 ∧ ∀ wave ∈ waves, 1 ≤ wave.length ∧ wave.length ≤ 64)
    fun _ _ ↦ False
  reset : ∀ idleCycles, (Line.reset idleCycles).Yields recorded
    (fun _ next ↦ ∃ waves, recorded.ClocksOut waves next ∧
      waves.flatten = high 51 ++ low idleCycles) fun _ _ ↦ False
  targetSelect : ∀ targetSel, (Line.targetSelect targetSel).Yields recorded
    (fun _ next ↦ recorded.ClocksOut [targetSelectLevels targetSel] next) fun _ _ ↦ False
  /-- The 48 cycles of a target selection are a packet that writes TARGETSEL. -/
  packet : ∀ targetSel, (targetSelectLevels targetSel).length = 48 ∧
    ∃ packet, WirePacket.parse? (targetSelectLevels targetSel) = some packet ∧
      packet.Selects targetSel
  /-- A line reset, the sequence from JTAG to dormant, eight high cycles, the alert, the activation
  code, a line reset with two idle cycles, the packet and two idle cycles. -/
  multidrop : ∀ targetSel, (connect .swd (.multidrop targetSel)).Yields recorded
    (fun _ next ↦ ∃ waves, recorded.ClocksOut waves next ∧
      waves.flatten = high 51 ++ digits 31 0x33BBBBBA ++ high 8 ++
        digits 128 0x19BC0EA2E3DDAFE986852D956209F392 ++ digits 12 0x1A0 ++
        (high 51 ++ low 2) ++ targetSelectLevels targetSel ++ low 2) fun _ _ ↦ False

/-- Waves that are clocked out are recorded. -/
private theorem clocksOut_of_clocks {recorded : Recorded σ} (isReady : ready recorded.inner)
    {waves : List (List Bool)} {action : Action (Recorded σ) CommandError Unit}
    (clocks : action.Clocks (fun recorded ↦ ready recorded.inner) waves) :
    action.Yields recorded (fun _ next ↦ recorded.ClocksOut waves next) fun _ _ ↦ False := by
  refine (clocks recorded isReady).imp ?_ fun _ _ never ↦ never
  rintro _ next ⟨-, sequences, conversation, rfl⟩
  exact Recorded.clocksOut_of_conversation conversation

private theorem clocksOut_of_drives {recorded : Recorded σ} (isReady : ready recorded.inner)
    {levels : List Bool} {action : Action (Recorded σ) CommandError Unit}
    (drives : action.Drives (fun recorded ↦ ready recorded.inner) levels) :
    action.Yields recorded
      (fun _ next ↦ ∃ waves, recorded.ClocksOut waves next ∧ waves.flatten = levels)
      fun _ _ ↦ False := by
  obtain ⟨waves, clocks, whole⟩ := drives
  exact (clocksOut_of_clocks isReady clocks).imp (fun _ _ recorded ↦ ⟨waves, recorded, whole⟩)
    fun _ _ never ↦ never

/-- A probe that grants every sequence clocks out what is asked of it, bit for bit. -/
theorem waveforms_exact (grants : GrantsSequences ready) {recorded : Recorded σ}
    (isReady : ready recorded.inner) : Waveforms recorded where
  sendBits := by
    intro bitLength bits positive few
    have clocks := pattern_clocks grants.recorded bits positive few
    unfold pattern at clocks
    rw [UInt8.ofNat_toNat] at clocks
    exact clocksOut_of_clocks isReady clocks
  idle := by
    intro cycles
    obtain ⟨waves, clocks, shape⟩ := idle_clocks grants.recorded cycles
    exact (clocksOut_of_clocks isReady clocks).imp (fun _ _ recorded ↦ ⟨waves, recorded, shape⟩)
      fun _ _ never ↦ never
  reset idleCycles := clocksOut_of_drives isReady (reset_drives grants.recorded idleCycles)
  targetSelect targetSel :=
    clocksOut_of_clocks isReady (targetSelect_clocks grants.recorded targetSel)
  packet targetSel := by
    have length : (targetSelectLevels targetSel).length = 48 := by
      rw [← digits_targetSelect, length_digits]
    exact ⟨length, _, parse_targetSelectLevels targetSel, selects_targetSelectPacket targetSel⟩
  multidrop targetSel := by
    show (Action.mapError LineError.command _).Yields _ _ _
    rw [Action.yields_mapError]
    exact clocksOut_of_drives isReady (connectMultidrop_drives grants.recorded targetSel)

/-- The simulated probe answers a sequence OK. -/
private theorem receive_of_levels {frame : Bytes} {levels : List Bool}
    (isSequence : Frame.levels? frame = some levels) {simulator : Simulator}
    (idle : simulator.Idle) :
    simulator.receive frame = { simulator with
      codes := simulator.codes.push 0x12
      pending := [[0x12, 0x00]] } := by
  obtain ⟨count, data, rfl⟩ := Frame.exists_of_levels isSequence
  cases simulator
  obtain ⟨rfl, rfl, rfl⟩ := idle
  rfl

/-- The simulated probe grants every sequence while it has nothing else to answer. -/
theorem grantsSequences_simulator :
    GrantsSequences fun simulator : Simulator ↦ simulator.Idle ∧ 10 ≤ simulator.packetSize where
  room := And.right
  converse := by
    rintro simulator frame levels ⟨idle, room⟩ isSequence
    unfold Probe.converse Probe.packetSize
    simp only [Action.yields_bind, Action.yields_get, Action.yields_pure, Transport.write,
      Action.yields_update, receive_of_levels isSequence idle, Transport.read]
    have capacity : 2 ≤ Probe.bufferSize simulator.packetSize :=
      Nat.le_trans (by decide) (Nat.le_max_right _ 64)
    have whole : List.take (Probe.bufferSize simulator.packetSize) [0x12, 0x00] =
        ([0x12, 0x00] : Bytes) := List.take_of_length_le capacity
    exact ⟨⟨[], whole⟩, ⟨rfl, idle.2⟩, room⟩

theorem waveforms_exact_simulator :
    (({} : Simulator).Idle ∧ 10 ≤ ({} : Simulator).packetSize) ∧
      Waveforms (⟨{}, #[]⟩ : Recorded Simulator) :=
  have isReady := ⟨⟨rfl, rfl, rfl⟩, by decide⟩
  ⟨isReady, waveforms_exact grantsSequences_simulator isReady⟩

end Line

end DebugProbe
