import DebugProbe.Register.Address

/-!
# Registers of a memory access port

A memory access port reaches target memory through three registers: CSW sets the size of an access
and whether the address advances, TAR holds the address, DRW carries the data.
Specification: `SPEC_FULL.md` §4.4.
-/

namespace DebugProbe

/-- Width of a memory access. -/
inductive AccessSize where
  | byte
  | word
  deriving DecidableEq, Repr

/-- The size field of CSW for a width. -/
def AccessSize.code : AccessSize → UInt8
  | .byte => 0
  | .word => 2

/-- A value of CSW, the control and status word. -/
structure ControlWord where
  word : UInt32
  deriving DecidableEq, Repr

namespace ControlWord

/-- Software access enable. -/
def softwareEnable : BitField := .bit 31

/-- Bus protection control. -/
def protection : BitField := .between 30 24

/-- Secure accesses are possible. -/
def secureEnabled : BitField := .bit 23

/-- Access mode. -/
def mode : BitField := .between 11 8

/-- A transfer is in progress. -/
def inProgress : BitField := .bit 7

/-- The access port can be used. -/
def deviceEnabled : BitField := .bit 6

/-- Address increment: zero is off, one single, two packed. -/
def increment : BitField := .between 5 4

/-- Size of an access. -/
def size : BitField := .between 2 0

/-- The word for debug accesses of a size, with single increment. -/
def ofSize (accessSize : AccessSize) : ControlWord :=
  ⟨size.setByte accessSize.code (increment.set 1 (deviceEnabled.put true 0x23000000))⟩

end ControlWord

/-- A memory access port, known by its number. -/
structure MemoryPort where
  index : UInt8
  deriving DecidableEq, Repr

namespace MemoryPort

/-- A register of the port. -/
def register (port : MemoryPort) (address : UInt8) : RegisterAddress := .access port.index address

/-- The control and status word. -/
def csw (port : MemoryPort) : RegisterAddress := port.register 0x00

/-- The transfer address. -/
def tar (port : MemoryPort) : RegisterAddress := port.register 0x04

/-- The data. -/
def drw (port : MemoryPort) : RegisterAddress := port.register 0x0C

end MemoryPort

example : (ControlWord.ofSize .word).word = 0x23000052 := by decide

example : (ControlWord.ofSize .byte).word = 0x23000050 := by decide

end DebugProbe
