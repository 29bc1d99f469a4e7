import DebugProbe.Probe.Commands
import DebugProbe.Register.DebugPort

/-!
# Waking the line

Before registers can be accessed the line has to be brought into a state in which the debug port
listens: out of a dormant or foreign protocol by fixed bit patterns, through a line reset and, on a
multi-drop line, with a TARGETSEL write. That write is never acknowledged, so it goes out as a raw
sequence of request byte, turnaround and acknowledge cycles, data and parity.
Specification: `SPEC_FULL.md` §4.2.
-/

namespace DebugProbe

/-- Why the line could not be prepared. -/
inductive LineError where
  /-- Targets can be selected over serial wire debug only. -/
  | multidropNeedsSwd
  | command (error : CommandError)
  deriving DecidableEq, Repr

namespace LineError

/-- The failure in words. -/
def message : LineError → String
  | multidropNeedsSwd => "multi-drop target selection is only possible over SWD"
  | command error => error.message

/-- What lies behind the failure. -/
def causes : LineError → List String
  | multidropNeedsSwd => []
  | command error => error.causes

end LineError

namespace Line

/-- Cycles with the line high in a line reset. -/
def resetCycles : Nat := 51

/-- The bits of a line reset: all ones. -/
def resetBits : UInt64 := 0x0007FFFFFFFFFFFF

/-- Idle cycles after the line reset that completes a switch. -/
def idleAfterReset : Nat := 2

/-- Switches a combined port from JTAG to serial wire debug. -/
def jtagToSwdBits : UInt64 := 0xE79E

/-- Switches a combined port from serial wire debug to JTAG. -/
def swdToJtagBits : UInt64 := 0xE73C

/-- Sends a JTAG port to sleep. -/
def jtagToDormantBits : UInt64 := 0x33BBBBBA

/-- The alert that wakes a dormant port, in two halves. -/
def alertBits : List UInt64 := [0x86852D956209F392, 0x19BC0EA2E3DDAFE9]

/-- Four low cycles and the activation code of serial wire debug. -/
def swdActivationBits : UInt64 := 0x1A0

/-- Whether a word holds an odd number of ones. -/
def parity (word : UInt32) : Bool :=
  (List.range 32).foldl (fun odd place ↦ xor odd (word.toNat.testBit place)) false

/-- The TARGETSEL write: request byte, turnaround and acknowledge cycles, data, parity. -/
def targetSelectBits (targetSel : UInt32) : UInt64 :=
  let parityBit : UInt64 := if parity targetSel then 1 else 0
  (parityBit <<< 45) ||| (targetSel.toUInt64 <<< 13) ||| 0x1F99

variable {σ : Type} [Transport σ]

/-- Clocks out a fixed pattern. -/
def pattern (cycles : Nat) (bits : UInt64) : Action σ CommandError Unit :=
  Probe.sendBits (UInt8.ofNat cycles) bits

/-- Clocks `cycles` cycles with the line low, at most 64 at a time. -/
def idle (cycles : Nat) : Action σ CommandError Unit := do
  if cycles = 0 then return
  else
    pattern (min cycles 64) 0
    idle (cycles - 64)
termination_by cycles

/-- Resets the line and keeps it low for `idleCycles` cycles, in one sequence if all fits. -/
def reset (idleCycles : Nat) : Action σ CommandError Unit := do
  if resetCycles + idleCycles ≤ 64 then pattern (resetCycles + idleCycles) resetBits
  else
    pattern resetCycles resetBits
    idle idleCycles

/-- Switches from JTAG to serial wire debug. -/
def jtagToSwd : Action σ CommandError Unit := do
  reset 0
  pattern 16 jtagToSwdBits
  reset idleAfterReset

/-- Switches from serial wire debug to JTAG and ends in the idle state. -/
def swdToJtag : Action σ CommandError Unit := do
  reset 0
  pattern 16 swdToJtagBits
  pattern 6 0x1F

/-- Sends out patterns one after the other. -/
def patterns (cycles : Nat) : List UInt64 → Action σ CommandError Unit
  | [] => pure ()
  | bits :: rest => do
    pattern cycles bits
    patterns cycles rest

/-- Wakes a dormant serial wire debug port and leaves the line reset and idle. -/
def dormantToSwd : Action σ CommandError Unit := do
  reset 0
  pattern 31 jtagToDormantBits
  pattern 8 0xFF
  patterns 64 alertBits
  pattern 12 swdActivationBits
  reset idleAfterReset

/-- Selects a target on a multi-drop line. -/
def targetSelect (targetSel : UInt32) : Action σ CommandError Unit :=
  pattern 48 (targetSelectBits targetSel)

/-- The scan that resets a JTAG port: five cycles at high mode level, one at low. -/
def tapResetScan : JtagScan where
  sequences := [
    ⟨List.replicate 5 true, true, false, by decide⟩,
    ⟨[true], false, false, by decide⟩]
  length_sequences := by decide

/-- Resets a JTAG port and parks it in the idle state. -/
def tapReset : Action σ CommandError Unit := do
  let _ ← Probe.scanJtag tapResetScan

/-- Brings the line into the state in which the chosen debug port can be talked to. -/
def connect (protocol : WireProtocol) (choice : DebugPortChoice) : Action σ LineError Unit :=
  match protocol, choice with
  | .swd, .sole => jtagToSwd.mapError .command
  | .swd, .multidrop targetSel => (do
      dormantToSwd
      targetSelect targetSel
      idle idleAfterReset : Action σ CommandError Unit).mapError .command
  | .jtag, .sole => (do
      swdToJtag
      tapReset : Action σ CommandError Unit).mapError .command
  | .jtag, .multidrop _ => throw .multidropNeedsSwd

end Line

end DebugProbe
