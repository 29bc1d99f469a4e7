import DebugProbe.Register.DebugPort
import DebugProbe.Text.Hex

/-!
# Register addresses

A register belongs to the debug port or to one of 256 access ports. The low nibble of its address
travels with a transfer (only bits 3 and 2 of it), the high nibble is the bank that SELECT must
hold when the transfer runs. `RegisterAddress.requiredSelect` gives the least change of SELECT that
makes a register reachable.
Specification: `SPEC_FULL.md` §§3/4.3.
-/

namespace DebugProbe

/-- The side of the debug interface that a transfer addresses. -/
inductive Port where
  | debug
  | access
  deriving DecidableEq, Repr

/-- A register of the debug port or of an access port. -/
inductive RegisterAddress where
  | debug (address : UInt8)
  | access (accessPort address : UInt8)
  deriving DecidableEq, Repr

namespace RegisterAddress

/-- The debug port register at a word-aligned address. -/
def debug? (address : UInt8) : Option RegisterAddress :=
  if address &&& 0x3 = 0 then some (.debug address) else none

/-- The access port register written as the access port in the top byte and the word-aligned
register address in the low byte, with nothing between. -/
def access? (address : UInt32) : Option RegisterAddress :=
  if address &&& 0x00FFFF03 = 0 then some (.access (address >>> 24).toUInt8 address.toUInt8)
  else none

/-- The side that the register is on. -/
def port : RegisterAddress → Port
  | .debug _ => .debug
  | .access _ _ => .access

/-- The address within its port, bank included. -/
def register : RegisterAddress → UInt8
  | .debug address => address
  | .access _ address => address

/-- Address bits 3 and 2, in place, as they travel with a transfer. -/
def wireAddress (register : RegisterAddress) : UInt8 := register.register &&& 0x0C

/-- The register bank. -/
def bank (register : RegisterAddress) : UInt8 := register.register >>> 4

/-- The value of SELECT that an access needs, `none` if `current` already fits. Of the debug port
only address `0x4` is banked; fields that the access does not depend on keep their value. -/
def requiredSelect (register : RegisterAddress) (current : Option Select) : Option Select :=
  let held := (current.getD ⟨0⟩).word
  let needed? : Option Select := match register with
    | .debug address =>
      if address &&& 0x0C = DebugPort.controlAddress then
        some ⟨Select.debugPortBank.setByte register.bank held⟩
      else none
    | .access accessPort _ =>
      some ⟨Select.accessPortBank.setByte register.bank
        (Select.accessPort.setByte accessPort held)⟩
  needed?.filter fun needed ↦ current != some needed

/-- The register as shown in messages. -/
def text : RegisterAddress → String
  | .debug address => "DP register " ++ Hex.marked 2 address.toNat
  | .access accessPort address =>
    "AP " ++ toString accessPort.toNat ++ " register " ++ Hex.marked 2 address.toNat

end RegisterAddress

/-- Read or write of one register. -/
inductive RegisterAccess where
  | read (register : RegisterAddress)
  | write (register : RegisterAddress) (value : UInt32)
  deriving DecidableEq, Repr

namespace RegisterAccess

/-- The register that is accessed. -/
def register : RegisterAccess → RegisterAddress
  | .read register => register
  | .write register _ => register

/-- The value to write, `none` for a read. -/
def value? : RegisterAccess → Option UInt32
  | .read _ => none
  | .write _ value => some value

/-- The access as shown in messages. -/
def text : RegisterAccess → String
  | .read register => "Read(" ++ register.text ++ ")"
  | .write register value =>
    "Write(" ++ register.text ++ ", data=" ++ Hex.marked 8 value.toNat ++ ")"

end RegisterAccess

end DebugProbe
