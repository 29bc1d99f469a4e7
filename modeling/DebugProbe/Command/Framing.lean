import DebugProbe.Bytes
import DebugProbe.Text.Hex

/-!
# Frames that do not fit

What can be wrong with a frame: it is too short for the answer to a command, it answers another
command, it carries a value that the command cannot return, or it would not fit into a packet.
Lengths in these complaints count the command code.
Specification: `SPEC_FULL.md` §§4.1/7.
-/

namespace DebugProbe

/-- Why a frame cannot be written or cannot belong to the command that was sent. -/
inductive FramingError where
  | tooShort (expected actual : Nat)
  | commandMismatch (expected received : UInt8)
  | invalidStatus (received : UInt8)
  | connectRefused (received : UInt8)
  | frameTooLarge (size max : Nat)
  | invalidString
  | unexpectedAnswer
  deriving DecidableEq, Repr

/-- The complaint in words. -/
def FramingError.message : FramingError → String
  | tooShort expected actual =>
    "Response too short: expected at least " ++ toString expected ++ " bytes, got "
      ++ toString actual
  | commandMismatch expected received =>
    "Command ID in response (" ++ Hex.marked 2 received.toNat
      ++ ") does not match sent command ID (" ++ Hex.marked 2 expected.toNat ++ ")"
  | invalidStatus received =>
    "Status can only be 0x00 or 0xFF, got " ++ Hex.marked 2 received.toNat
  | connectRefused received =>
    "Connecting to target failed, received: " ++ Hex.marked 1 received.toNat
  | frameTooLarge size max =>
    "Frame of " ++ toString size ++ " bytes does not fit in a " ++ toString max ++ " byte packet"
  | invalidString => "String in response is not valid UTF-8"
  | unexpectedAnswer => "Unexpected answer to command"

/-- The status byte with which most answers begin. -/
inductive Status where
  | ok
  | error
  deriving DecidableEq, Repr

/-- A status is zero or all ones. -/
def Status.ofByte (byte : UInt8) : Except FramingError Status :=
  if byte = 0x00 then .ok .ok
  else if byte = 0xFF then .ok .error
  else .error (.invalidStatus byte)

/-- Refuses a payload of fewer than `needed` bytes; the lengths reported count the command code. -/
def requireLength (payload : Bytes) (needed : Nat) : Except FramingError Unit :=
  if payload.length < needed then .error (.tooShort (needed + 1) (payload.length + 1))
  else .ok ()

theorem requireLength_eq_ok_iff {payload : Bytes} {needed : Nat} :
    requireLength payload needed = .ok () ↔ needed ≤ payload.length := by
  simp only [requireLength]
  split <;> simp <;> omega

end DebugProbe
