import DebugProbe.BitField

/-!
# Registers of the debug port

Bit layouts of ABORT, CTRL/STAT, SELECT and DPIDR, the addresses of the debug port's registers, and
the choice of one debug port among several on a multi-drop line.
Specification: `SPEC_FULL.md` §§4.3/4.4.
-/

namespace DebugProbe

/-- Which debug port on the line a session talks to. -/
inductive DebugPortChoice where
  /-- The only one, reached after a plain line reset. -/
  | sole
  /-- One of several on a multi-drop line, reached by writing `targetSel` to TARGETSEL. -/
  | multidrop (targetSel : UInt32)
  deriving DecidableEq, Repr

/-- A configured target selection means a multi-drop line, none the sole debug port. -/
def DebugPortChoice.ofTargetSel : Option UInt32 → DebugPortChoice
  | some targetSel => .multidrop targetSel
  | none => .sole

namespace DebugPort

/-- Address of DPIDR, which can only be read. -/
def identificationAddress : UInt8 := 0x0

/-- Address of CTRL/STAT, and of every other register of the banked address. -/
def controlAddress : UInt8 := 0x4

/-- Address of SELECT. -/
def selectAddress : UInt8 := 0x8

end DebugPort

/-- A value for ABORT. -/
structure Abort where
  word : UInt32
  deriving DecidableEq, Repr

namespace Abort

/-- Clears the overrun flag. -/
def overrunClear : BitField := .bit 4

/-- Clears the write data error flag. -/
def writeErrorClear : BitField := .bit 3

/-- Clears the sticky error flag. -/
def stickyErrorClear : BitField := .bit 2

/-- Clears the sticky compare flag. -/
def stickyCompareClear : BitField := .bit 1

/-- Aborts the current access port transaction. -/
def abortAccess : BitField := .bit 0

/-- Clears every sticky flag and leaves a running transaction alone. -/
def clearSticky : Abort :=
  ⟨[overrunClear, writeErrorClear, stickyErrorClear, stickyCompareClear].foldl
    (fun word field ↦ field.put true word) 0⟩

example : clearSticky.word = 0x1E := by decide

end Abort

/-- A value of CTRL/STAT. -/
structure ControlStatus where
  word : UInt32
  deriving DecidableEq, Repr

namespace ControlStatus

/-- System power-up acknowledge. -/
def systemPowerAck : BitField := .bit 31

/-- System power-up request. -/
def systemPowerRequest : BitField := .bit 30

/-- Debug power-up acknowledge. -/
def debugPowerAck : BitField := .bit 29

/-- Debug power-up request. -/
def debugPowerRequest : BitField := .bit 28

/-- Debug reset acknowledge. -/
def debugResetAck : BitField := .bit 27

/-- Debug reset request. -/
def debugResetRequest : BitField := .bit 26

/-- Byte lanes masked in pushed operations. -/
def maskLane : BitField := .between 11 8

/-- A write was lost. -/
def writeDataError : BitField := .bit 7

/-- The last access port read went through. -/
def readOk : BitField := .bit 6

/-- An access port transaction failed. -/
def stickyError : BitField := .bit 5

/-- A pushed compare matched. -/
def stickyCompare : BitField := .bit 4

/-- Transfer mode of pushed operations. -/
def transferMode : BitField := .between 3 2

/-- An overrun happened. -/
def stickyOverrun : BitField := .bit 1

/-- Overrun detection is on. -/
def overrunDetect : BitField := .bit 0

/-- Requests power for the debug and the system domain, with every byte lane unmasked. -/
def powerUp : ControlStatus :=
  ⟨maskLane.set 0xF (systemPowerRequest.put true (debugPowerRequest.put true 0))⟩

/-- Whether both power domains acknowledge. -/
def powered (status : ControlStatus) : Bool :=
  debugPowerAck.test status.word && systemPowerAck.test status.word

example : powerUp.word = 0x50000F00 := by decide

/-- Bits 29 and 31 are the acknowledges. -/
example : powered ⟨0xA0000000⟩ = true ∧ powered ⟨0xDFFFFFFF⟩ = false ∧
    powered ⟨0x7FFFFFFF⟩ = false := by decide

end ControlStatus

/-- A value of SELECT: which access port and which register banks the next accesses mean. -/
structure Select where
  word : UInt32
  deriving DecidableEq, Repr

namespace Select

/-- The access port. -/
def accessPort : BitField := .between 31 24

/-- The bank of access port registers. -/
def accessPortBank : BitField := .between 7 4

/-- The bank of debug port address `0x4`. -/
def debugPortBank : BitField := .between 3 0

end Select

namespace Identification

/-- Revision of the debug port. -/
def revision : BitField := .between 31 28

/-- Part number. -/
def partNumber : BitField := .between 27 20

/-- Whether the minimal debug port functions are implemented. -/
def minimal : BitField := .bit 16

/-- Version of the debug port architecture. -/
def version : BitField := .between 15 12

/-- JEP106 continuation code of the designer. -/
def designerContinuation : BitField := .between 11 8

/-- JEP106 identification code of the designer. -/
def designerCode : BitField := .between 7 1

end Identification

end DebugProbe
