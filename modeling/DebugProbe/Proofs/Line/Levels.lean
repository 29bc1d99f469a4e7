import DebugProbe.Proofs.Probe.Performing
import Mathlib.Data.Nat.Bitwise

/-!
# What a line sequence drives

A line sequence drives the data line to one level for each cycle, a scan drives the mode line of a
JTAG port. Told by these levels, this is how a line is woken when a target is connected and how it
is recovered later.
-/

namespace DebugProbe

namespace Bytes

/-- The bits of a number are its binary digits, least significant first. -/
theorem bits_ofNumber (count value : Nat) :
    bits (ofNumber count value) = (List.range (8 * count)).map value.testBit := by
  induction count generalizing value with
  | zero => rfl
  | succ count ih =>
    have low : (List.range 8).map (UInt8.ofNat value).toNat.testBit =
        (List.range 8).map value.testBit := by
      refine List.map_congr_left fun place member ↦ ?_
      have few : place < 8 := List.mem_range.mp member
      show (value % 2 ^ 8).testBit place = value.testBit place
      rw [Nat.testBit_mod_two_pow]
      simp [few]
    have high : (List.range (8 * count)).map (value / 256).testBit =
        (List.range (8 * count)).map fun place ↦ value.testBit (8 + place) := by
      refine List.map_congr_left fun place _ ↦ ?_
      show (value / 2 ^ 8).testBit place = _
      rw [Nat.testBit_div_two_pow, Nat.add_comm]
    have split : 8 * (count + 1) = 8 + 8 * count := by omega
    rw [split, List.range_add, List.map_append, List.map_map]
    show (List.range 8).map (UInt8.ofNat value).toNat.testBit ++
      bits (ofNumber count (value / 256)) = _
    rw [ih, low, high]
    rfl

/-- Whole bytes hold eight bits each. -/
theorem bits_take (bytes : Bytes) (count : Nat) :
    bits (bytes.take count) = (bits bytes).take (8 * count) := by
  induction bytes generalizing count with
  | nil => simp [bits]
  | cons byte rest ih =>
    cases count with
    | zero => rfl
    | succ count =>
      have split : 8 * (count + 1) =
          ((List.range 8).map byte.toNat.testBit).length + 8 * count := by
        rw [List.length_map, List.length_range]
        omega
      show (List.range 8).map byte.toNat.testBit ++ bits (rest.take count) =
        ((List.range 8).map byte.toNat.testBit ++ bits rest).take (8 * (count + 1))
      rw [ih, split, List.take_length_add_append]

end Bytes

/-- The levels of the data line, one for each cycle. -/
def LineSequence.levels (sequence : LineSequence) : List Bool :=
  (Bytes.bits sequence.data).take sequence.bitLength

/-- The levels of the mode line, one for each cycle. -/
def JtagScan.modes (scan : JtagScan) : List Bool :=
  scan.sequences.flatMap fun sequence ↦ List.replicate sequence.tdi.length sequence.tms

/-- What a frame drives: the data line, or the mode line of a JTAG port. -/
inductive LineStep where
  | data (levels : List Bool)
  | mode (levels : List Bool)
  deriving DecidableEq, Repr

/-- The request drives the line so. -/
def Request.Drives (step : LineStep) : Request → Prop
  | lineSequence sequence => step = .data sequence.levels
  | jtagScan scan => step = .mode scan.modes
  | _ => False

/-- Some steps, as the requests for them. -/
def LineStep.requests (steps : List LineStep) : List (Request → Prop) :=
  steps.map Request.Drives

namespace Line

/-- Cycles with the line high. -/
def high (cycles : Nat) : List Bool := List.replicate cycles true

/-- Cycles with the line low. -/
def low (cycles : Nat) : List Bool := List.replicate cycles false

/-- The binary digits of a number on the line, least significant first. -/
def digits (cycles value : Nat) : List Bool := (List.range cycles).map value.testBit

@[simp] theorem length_digits (cycles value : Nat) : (digits cycles value).length = cycles := by
  simp [digits]

/-- Zero keeps the line low. -/
theorem digits_zero (cycles : Nat) : digits cycles 0 = low cycles := by
  refine List.eq_replicate_iff.mpr ⟨length_digits cycles 0, fun level member ↦ ?_⟩
  obtain ⟨place, -, rfl⟩ := List.mem_map.mp member
  exact Nat.zero_testBit place

/-- A pattern of up to 64 cycles is one sequence of these levels. -/
theorem exists_sequence (bits : UInt64) {cycles : Nat} (positive : 0 < cycles) (few : cycles ≤ 64) :
    ∃ sequence, LineSequence.ofBytes? (Bytes.ofUInt64 bits) (UInt8.ofNat cycles) = some sequence ∧
      sequence.levels = digits cycles bits.toNat := by
  have count : (UInt8.ofNat cycles).toNat = cycles := UInt8.toNat_ofNat_of_lt' (by
    have : UInt8.size = 256 := rfl
    omega)
  have nonzero : UInt8.ofNat cycles ≠ 0 := by
    intro zero
    rw [zero] at count
    have : (0 : UInt8).toNat = 0 := rfl
    omega
  have needed : LineSequence.byteCount (UInt8.ofNat cycles) = Bytes.sizeOfBits cycles := by
    unfold LineSequence.byteCount
    rw [if_neg nonzero, count]
  have long : (Bytes.ofUInt64 bits).length = 8 := Bytes.length_ofNumber 8 _
  have enough : Bytes.sizeOfBits cycles ≤ 8 := by
    unfold Bytes.sizeOfBits
    omega
  have fits : (Bytes.ofUInt64 bits).length ≤ LineSequence.maxBytes ∧
      LineSequence.byteCount (UInt8.ofNat cycles) ≤ (Bytes.ofUInt64 bits).length := by
    rw [needed, long]
    exact ⟨by decide, enough⟩
  refine ⟨_, dif_pos fits, ?_⟩
  unfold LineSequence.levels LineSequence.bitLength
  dsimp only
  rw [if_neg nonzero, needed, count, Bytes.bits_take]
  unfold Bytes.ofUInt64
  rw [Bytes.bits_ofNumber, List.take_take, ← List.map_take, List.take_range]
  unfold digits Bytes.sizeOfBits
  congr 2
  omega

variable {σ : Type} [Transport σ]

/-- A pattern of up to 64 cycles sends one sequence of these levels. -/
theorem exists_pattern (bits : UInt64) {cycles : Nat} (positive : 0 < cycles) (few : cycles ≤ 64) :
    ∃ sequence, pattern (σ := σ) cycles bits = Probe.sendSequence sequence ∧
      sequence.levels = digits cycles bits.toNat := by
  obtain ⟨sequence, fits, driven⟩ := exists_sequence bits positive few
  have inRange : ¬(UInt8.ofNat cycles = 0 ∨ 64 < UInt8.ofNat cycles) := by
    have count : (UInt8.ofNat cycles).toNat = cycles := UInt8.toNat_ofNat_of_lt' (by
      have : UInt8.size = 256 := rfl
      omega)
    rw [UInt8.lt_iff_toNat_lt, ← UInt8.toNat_inj, count]
    have : (0 : UInt8).toNat = 0 := rfl
    have : (64 : UInt8).toNat = 64 := rfl
    omega
  refine ⟨sequence, ?_, driven⟩
  unfold pattern Probe.sendBits
  rw [if_neg inRange, fits]
  rfl

/-- A pattern of up to 64 cycles drives its levels. -/
theorem pattern_performs (bits : UInt64) {cycles : Nat} (positive : 0 < cycles) (few : cycles ≤ 64)
    {levels : List Bool} (shape : digits cycles bits.toNat = levels) :
    (pattern cycles bits).Performs (σ := σ) (LineStep.requests [.data levels]) := by
  obtain ⟨sequence, sends, driven⟩ := exists_pattern (σ := σ) bits positive few
  rw [sends]
  refine Probe.performs_accept (.lineSequence sequence) id _ ?_ fun _ ↦ id
  show LineStep.data levels = .data sequence.levels
  rw [driven, shape]

/-- Idle cycles in one sequence keep the line low. -/
theorem idle_performs {cycles : Nat} (positive : 0 < cycles) (few : cycles ≤ 64) :
    (idle cycles).Performs (σ := σ) (LineStep.requests [.data (low cycles)]) := by
  have driven : (pattern (min cycles 64) 0).Performs (σ := σ)
      (LineStep.requests [.data (low cycles)]) := by
    rw [Nat.min_eq_left few]
    exact pattern_performs 0 positive few (digits_zero cycles)
  have none : cycles - 64 = 0 := by omega
  unfold idle
  rw [if_neg (by omega), none]
  unfold idle
  exact driven.bind_pure (f := fun _ ↦ ())

/-- The digits of a row of ones. -/
theorem digits_ones (ones zeros : Nat) :
    digits (ones + zeros) (2 ^ ones - 1) = high ones ++ low zeros := by
  unfold digits high low
  apply List.ext_getElem
  · simp
  · intro place _ _
    rw [List.getElem_map, List.getElem_range, Nat.testBit_two_pow_sub_one, List.getElem_append]
    by_cases early : place < ones
    · simp [early]
    · simp [early]

/-- A line reset keeps the line high and then low. -/
theorem reset_performs {idleCycles : Nat} (few : idleCycles ≤ 13) :
    (reset idleCycles).Performs (σ := σ)
      (LineStep.requests [.data (high resetCycles ++ low idleCycles)]) := by
  have cycles : resetCycles = 51 := rfl
  have bits : resetBits.toNat = 2 ^ resetCycles - 1 := by decide
  unfold reset
  rw [if_pos (by omega)]
  refine pattern_performs resetBits (by omega) (by omega) ?_
  rw [bits, digits_ones]

/-- The reset of a JTAG port keeps the mode line high for five cycles. -/
theorem tapReset_performs :
    tapReset.Performs (σ := σ) (LineStep.requests [.mode (high 5 ++ low 1)]) := by
  have scanning : tapReset (σ := σ) = (do
      let reply ← Probe.send (.jtagScan tapResetScan)
      Probe.accept reply.status (.jtagScan tapResetScan)) := by
    unfold tapReset Probe.scanJtag
    simp only [bind_assoc, pure_bind, bind_pure_unit]
  rw [scanning]
  exact Probe.performs_accept (.jtagScan tapResetScan) ScanReply.status _ rfl fun _ ok ↦ ok

/-- The levels of a TARGETSEL write: the request, cycles that are left to the targets, the value and
its parity. -/
def targetSelectLevels (targetSel : UInt32) : List Bool :=
  digits 8 0x99 ++ high 5 ++ digits 32 targetSel.toNat ++ [parity targetSel] ++ low 2

/-- The digits of a TARGETSEL write: the value comes after thirteen cycles, then its parity. -/
private theorem testBit_targetSelectBits (targetSel : UInt32) {place : Nat} (few : place < 64) :
    (targetSelectBits targetSel).toNat.testBit place =
      (decide (45 = place) && parity targetSel ||
        decide (13 ≤ place) && targetSel.toNat.testBit (place - 13) ||
        Nat.testBit 0x1F99 place) := by
  have last : (decide (45 ≤ place) &&
      (if parity targetSel then 1 else 0 : UInt64).toNat.testBit (place - 45)) =
      (decide (45 = place) && parity targetSel) := by
    cases parity targetSel with
    | false => simp
    | true =>
      show (decide (45 ≤ place) && Nat.testBit 1 (place - 45)) = _
      rw [Bool.eq_iff_iff]
      simp only [Bool.and_eq_true, decide_eq_true_eq, Nat.testBit_one_eq_true_iff_self_eq_zero,
        and_true]
      omega
  unfold targetSelectBits
  simp only [UInt64.toNat_or, UInt64.toNat_shiftLeft, Nat.testBit_or, Nat.testBit_mod_two_pow,
    Nat.testBit_shiftLeft, few, decide_true, Bool.true_and, UInt32.toNat_toUInt64]
  rw [← last]
  rfl

theorem digits_targetSelect (targetSel : UInt32) :
    digits 48 (targetSelectBits targetSel).toNat = targetSelectLevels targetSel := by
  have split : digits 48 (targetSelectBits targetSel).toNat =
      (List.range 13).map (targetSelectBits targetSel).toNat.testBit ++
        (List.range 32).map (fun place ↦ (targetSelectBits targetSel).toNat.testBit (13 + place)) ++
        (List.range 3).map (fun place ↦ (targetSelectBits targetSel).toNat.testBit (45 + place)) :=
    rfl
  have request : (List.range 13).map (targetSelectBits targetSel).toNat.testBit =
      digits 8 0x99 ++ high 5 := by
    rw [List.map_congr_left (g := Nat.testBit 0x1F99)]
    · decide
    · intro place member
      have few := List.mem_range.mp member
      rw [testBit_targetSelectBits targetSel (by omega)]
      simp [show ¬45 = place by omega, show ¬13 ≤ place by omega]
  have value : (List.range 32).map
      (fun place ↦ (targetSelectBits targetSel).toNat.testBit (13 + place)) =
      digits 32 targetSel.toNat := by
    refine List.map_congr_left fun place member ↦ ?_
    have few := List.mem_range.mp member
    have none : Nat.testBit 0x1F99 (13 + place) = false :=
      Nat.testBit_lt_two_pow (Nat.lt_of_lt_of_le (by decide : 0x1F99 < 2 ^ 13)
        (Nat.pow_le_pow_right (by decide) (Nat.le_add_right 13 place)))
    rw [testBit_targetSelectBits targetSel (by omega), none, Nat.add_sub_cancel_left]
    simp [show ¬45 = 13 + place by omega]
  have tail : (List.range 3).map
      (fun place ↦ (targetSelectBits targetSel).toNat.testBit (45 + place)) =
      [parity targetSel] ++ low 2 := by
    have cleared (place : Nat) (beyond : 32 ≤ place) : targetSel.toNat.testBit place = false :=
      Nat.testBit_lt_two_pow (Nat.lt_of_lt_of_le targetSel.toNat_lt
        (Nat.pow_le_pow_right (by decide) beyond))
    have digit (place : Nat) (few : place < 3) :
        (targetSelectBits targetSel).toNat.testBit (45 + place) =
          (decide (place = 0) && parity targetSel) := by
      have none : Nat.testBit 0x1F99 (45 + place) = false :=
        Nat.testBit_lt_two_pow (Nat.lt_of_lt_of_le (by decide : 0x1F99 < 2 ^ 13)
          (Nat.pow_le_pow_right (by decide) (by omega)))
      rw [testBit_targetSelectBits targetSel (by omega), none, cleared _ (by omega)]
      simp
    rw [List.map_congr_left fun place member ↦ digit place (List.mem_range.mp member)]
    cases parity targetSel <;> rfl
  rw [split, request, value, tail]
  simp only [targetSelectLevels, List.append_assoc]

theorem targetSelect_performs (targetSel : UInt32) :
    (targetSelect targetSel).Performs (σ := σ)
      (LineStep.requests [.data (targetSelectLevels targetSel)]) :=
  pattern_performs _ (by decide) (by decide) (digits_targetSelect targetSel)

/-- How a line is woken when a target is connected. -/
def switch : (protocol : WireProtocol) → (targetSel : Option UInt32) → List LineStep
  | .swd, none => [
      .data (high 51), .data (digits 16 0xE79E), .data (high 51 ++ low 2)]
  | .swd, some targetSel => [
      .data (high 51), .data (digits 31 0x33BBBBBA), .data (high 8),
      .data (digits 64 0x86852D956209F392), .data (digits 64 0x19BC0EA2E3DDAFE9),
      .data (digits 12 0x1A0), .data (high 51 ++ low 2),
      .data (targetSelectLevels targetSel), .data (low 2)]
  | .jtag, _ => [
      .data (high 51), .data (digits 16 0xE73C), .data (high 5 ++ low 1), .mode (high 5 ++ low 1)]

/-- How a line is recovered after a missing acknowledge: a line reset, and a TARGETSEL write where
there are several targets; or the reset of the JTAG port. -/
def recovery : (protocol : WireProtocol) → (targetSel : Option UInt32) → List LineStep
  | .swd, none => [.data (high 51 ++ low 2)]
  | .swd, some targetSel => [
      .data (high 51 ++ low 2), .data (targetSelectLevels targetSel), .data (low 2)]
  | .jtag, _ => [.mode (high 5 ++ low 1)]

private theorem jtagToSwd_performs :
    jtagToSwd.Performs (σ := σ) (LineStep.requests (switch .swd none)) :=
  (reset_performs (by decide)).bind fun _ ↦
    (pattern_performs _ (by decide) (by decide) rfl).bind fun _ ↦ reset_performs (by decide)

private theorem swdToJtag_performs :
    swdToJtag.Performs (σ := σ) (LineStep.requests
      [.data (high 51), .data (digits 16 0xE73C), .data (high 5 ++ low 1)]) :=
  (reset_performs (by decide)).bind fun _ ↦
    (pattern_performs _ (by decide) (by decide) rfl).bind fun _ ↦
      pattern_performs _ (by decide) (by decide) (digits_ones 5 1)

private theorem dormantToSwd_performs :
    dormantToSwd.Performs (σ := σ) (LineStep.requests [
      .data (high 51), .data (digits 31 0x33BBBBBA), .data (high 8),
      .data (digits 64 0x86852D956209F392), .data (digits 64 0x19BC0EA2E3DDAFE9),
      .data (digits 12 0x1A0), .data (high 51 ++ low 2)]) := by
  have alert : (patterns 64 alertBits).Performs (σ := σ) (LineStep.requests
      [.data (digits 64 0x86852D956209F392), .data (digits 64 0x19BC0EA2E3DDAFE9)]) :=
    (pattern_performs _ (by decide) (by decide) rfl).bind fun _ ↦
      (pattern_performs _ (by decide) (by decide) rfl).bind fun _ ↦ Action.performs_pure ()
  exact (reset_performs (by decide)).bind fun _ ↦
    (pattern_performs _ (by decide) (by decide) rfl).bind fun _ ↦
    (pattern_performs _ (by decide) (by decide) (digits_ones 8 0)).bind fun _ ↦
    alert.bind fun _ ↦
    (pattern_performs _ (by decide) (by decide) rfl).bind fun _ ↦ reset_performs (by decide)

/-- A line is woken step by step, where its protocol can select a target or none is to be
selected. -/
theorem yields_connect {protocol : WireProtocol} {targetSel : Option UInt32}
    (possible : targetSel = none ∨ protocol = .swd) (state : σ) :
    (connect protocol (.ofTargetSel targetSel)).Yields state
      (fun _ next ↦ ∃ turns, Turn.Follow (LineStep.requests (switch protocol targetSel)) turns ∧
        Conversation state (turns.map .turn) next)
      (fun error next ↦ ∃ cause turns, error = .command cause ∧
        Turn.Take (LineStep.requests (switch protocol targetSel)) turns ∧
          Conversation state (turns.map .turn) next) := by
  have renamed {action : Action σ CommandError Unit} {steps : List (Request → Prop)}
      (performs : action.Performs steps) :
      (action.mapError LineError.command).Yields state
        (fun _ next ↦ ∃ turns, Turn.Follow steps turns ∧
          Conversation state (turns.map .turn) next)
        (fun error next ↦ ∃ cause turns, error = .command cause ∧
          Turn.Take steps turns ∧ Conversation state (turns.map .turn) next) := by
    rw [Action.yields_mapError]
    exact (performs state).imp (fun _ _ done ↦ done)
      fun cause _ ⟨turns, take, conversation, _⟩ ↦ ⟨cause, turns, rfl, take, conversation⟩
  cases protocol with
  | swd =>
    cases targetSel with
    | none => exact renamed jtagToSwd_performs
    | some targetSel =>
      exact renamed (dormantToSwd_performs.bind fun _ ↦ (targetSelect_performs targetSel).bind
        fun _ ↦ idle_performs (by decide) (by decide))
  | jtag =>
    cases targetSel with
    | none => exact renamed (swdToJtag_performs.bind fun _ ↦ tapReset_performs)
    | some targetSel => exact absurd possible (by simp)

end Line

end DebugProbe
