import DebugProbe.Proofs.Line.Levels
import DebugProbe.Proofs.Line.Packing

/-!
# The packet of a TARGETSEL write

On a serial wire a register is written by a packet: a request of eight bits, cycles in which the
line is left to the target, 32 bits of data and their parity. The write of TARGETSEL is clocked out
as a raw sequence, so nothing but its levels makes it such a packet. Read as one, they are a write
of the debug port register at 0xC with both parities even.
-/

namespace DebugProbe

/-- A write on a serial wire, bit by bit. -/
structure WirePacket where
  start : Bool
  /-- Whether an access port is meant, not the debug port. -/
  accessPort : Bool
  read : Bool
  /-- The bits of the address that a request has. -/
  a2 : Bool
  a3 : Bool
  /-- The parity of the four bits before. -/
  requestParity : Bool
  stop : Bool
  park : Bool
  /-- The turnaround, the acknowledge and the turnaround back, driven by the target if at all. -/
  turnaround : List Bool
  data : List Bool
  dataParity : Bool
  /-- The cycles after the packet. -/
  rest : List Bool
  deriving DecidableEq, Repr

namespace WirePacket

/-- Reads the levels of a line as a write, and as cycles that follow it. -/
def parse? : (levels : List Bool) → Option WirePacket
  | start :: accessPort :: read :: a2 :: a3 :: requestParity :: stop :: park :: levels =>
    match (levels.drop 5).drop 32 with
    | dataParity :: rest => some {
        start, accessPort, read, a2, a3, requestParity, stop, park
        turnaround := levels.take 5
        data := (levels.drop 5).take 32
        dataParity, rest }
    | [] => none
  | _ => none

/-- The request byte. -/
def request (packet : WirePacket) : Nat :=
  Bytes.ofDigits [packet.start, packet.accessPort, packet.read, packet.a2, packet.a3,
    packet.requestParity, packet.stop, packet.park]

/-- The register address that the request names. -/
def address (packet : WirePacket) : Nat :=
  (if packet.a2 then 4 else 0) + (if packet.a3 then 8 else 0)

/-- There is an even number of ones. -/
abbrev EvenOnes (levels : List Bool) : Prop := levels.count true % 2 = 0

/-- The packet is what a serial wire takes for a request and data: framed as it should be, with even
parities, and nothing but low cycles after it. -/
structure WellFormed (packet : WirePacket) : Prop where
  start : packet.start = true
  requestParity : EvenOnes
    [packet.accessPort, packet.read, packet.a2, packet.a3, packet.requestParity]
  stop : packet.stop = false
  park : packet.park = true
  turnaround : packet.turnaround.length = 5
  data : packet.data.length = 32
  dataParity : EvenOnes (packet.data ++ [packet.dataParity])
  rest : ∀ level ∈ packet.rest, level = false

/-- The packet writes a value to TARGETSEL. -/
structure Selects (targetSel : UInt32) (packet : WirePacket) : Prop where
  wellFormed : packet.WellFormed
  request : packet.request = 0x99
  debugPort : packet.accessPort = false
  write : packet.read = false
  address : packet.address = 0xC
  value : Bytes.ofDigits packet.data = targetSel.toNat

end WirePacket

namespace Line

/-- The digits of a number that fits make up the number. -/
theorem ofDigits_digits {cycles value : Nat} (fits : value < 2 ^ cycles) :
    Bytes.ofDigits (digits cycles value) = value := by
  apply Nat.eq_of_testBit_eq
  intro place
  rw [Bytes.testBit_ofDigits]
  by_cases inside : place < cycles
  · rw [List.getD_eq_getElem _ _ (by rwa [length_digits])]
    simp [digits]
  · have beyond : value.testBit place = false :=
      Nat.testBit_lt_two_pow (Nat.lt_of_lt_of_le fits
        (Nat.pow_le_pow_right (by decide) (Nat.le_of_not_lt inside)))
    rw [beyond, List.getD_eq_default _ _ (by rw [length_digits]; omega)]

/-- Levels combined one by one tell whether there is an odd number of ones. -/
theorem foldl_xor (levels : List Bool) (odd : Bool) :
    levels.foldl xor odd = xor odd (decide (levels.count true % 2 = 1)) := by
  induction levels generalizing odd with
  | nil => simp
  | cons level levels ih =>
    rw [List.foldl_cons, ih]
    cases level with
    | false => simp
    | true =>
      rw [List.count_cons_self]
      rcases Nat.mod_two_eq_zero_or_one (levels.count true) with even | odd
      · simp [even, Nat.add_mod]
      · simp [odd, Nat.add_mod]

/-- The parity of a word makes the number of its ones even. -/
theorem even_parity (word : UInt32) :
    WirePacket.EvenOnes (digits 32 word.toNat ++ [parity word]) := by
  have folded : parity word = (digits 32 word.toNat).foldl xor false := by
    unfold parity digits
    rw [List.foldl_map]
  unfold WirePacket.EvenOnes
  rw [folded, foldl_xor, List.count_append, Bool.false_xor]
  rcases Nat.mod_two_eq_zero_or_one ((digits 32 word.toNat).count true) with even | odd
  · simp [even]
  · simp [odd, Nat.add_mod]

/-- The packet of a TARGETSEL write. -/
def targetSelectPacket (targetSel : UInt32) : WirePacket where
  start := true
  accessPort := false
  read := false
  a2 := true
  a3 := true
  requestParity := false
  stop := false
  park := true
  turnaround := high 5
  data := digits 32 targetSel.toNat
  dataParity := parity targetSel
  rest := low 2

/-- The levels of a TARGETSEL write are read as its packet. -/
theorem parse_targetSelectLevels (targetSel : UInt32) :
    WirePacket.parse? (targetSelectLevels targetSel) = some (targetSelectPacket targetSel) := rfl

theorem wellFormed_targetSelectPacket (targetSel : UInt32) :
    (targetSelectPacket targetSel).WellFormed where
  start := rfl
  requestParity := by
    show WirePacket.EvenOnes [false, false, true, true, false]
    decide
  stop := rfl
  park := rfl
  turnaround := rfl
  data := length_digits 32 targetSel.toNat
  dataParity := even_parity targetSel
  rest := fun _ member ↦ List.eq_of_mem_replicate member

theorem selects_targetSelectPacket (targetSel : UInt32) :
    (targetSelectPacket targetSel).Selects targetSel where
  wellFormed := wellFormed_targetSelectPacket targetSel
  request := by
    show Bytes.ofDigits [true, false, false, true, true, false, false, true] = 0x99
    decide
  debugPort := rfl
  write := rfl
  address := rfl
  value := ofDigits_digits targetSel.toNat_lt

end Line

end DebugProbe
