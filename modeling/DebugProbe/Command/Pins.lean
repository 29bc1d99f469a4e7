import DebugProbe.Bytes

/-!
# Debug pins

The probe drives the pins that a request selects and answers with the levels of all of them.
Specification: `SPEC_FULL.md` §4.1.
-/

namespace DebugProbe

/-- Levels of the debug pins, one bit each. -/
structure Pins where
  byte : UInt8
  deriving DecidableEq, Repr

namespace Pins

/-- The level of the pin at a bit position. -/
def level (pins : Pins) (position : Nat) : Bool := pins.byte.toNat.testBit position

/-- Target reset, active low. -/
def nreset (pins : Pins) : Bool := pins.level 7

/-- JTAG reset, active low. -/
def ntrst (pins : Pins) : Bool := pins.level 5

/-- JTAG data out of the target. -/
def tdo (pins : Pins) : Bool := pins.level 3

/-- JTAG data into the target. -/
def tdi (pins : Pins) : Bool := pins.level 2

/-- Serial wire data, or JTAG mode. -/
def swdio (pins : Pins) : Bool := pins.level 1

/-- The clock. -/
def swclk (pins : Pins) : Bool := pins.level 0

end Pins

/-- Which reset pins to drive, to which levels, and how many microseconds to let them settle. -/
structure PinRequest where
  nreset : Option Bool := none
  ntrst : Option Bool := none
  wait : UInt32 := 0
  deriving DecidableEq, Repr

namespace PinRequest

/-- Levels for the pins that are driven, zero for the others. -/
def output (request : PinRequest) : UInt8 :=
  (if request.nreset = some true then 0x80 else 0) |||
    (if request.ntrst = some true then 0x20 else 0)

/-- The pins that are driven. -/
def select (request : PinRequest) : UInt8 :=
  (if request.nreset.isSome then 0x80 else 0) ||| (if request.ntrst.isSome then 0x20 else 0)

/-- What follows the command code: levels, selection and settling time. -/
def payload (request : PinRequest) : Bytes :=
  request.output :: request.select :: Bytes.ofUInt32 request.wait

end PinRequest

end DebugProbe
