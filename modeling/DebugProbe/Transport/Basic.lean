import DebugProbe.Action
import DebugProbe.Bytes

/-!
# Transports

A transport carries one command frame per write and one answer frame per read. Everything the
library does with a probe goes through this interface, and nothing is assumed about how a transport
behaves, nor about the time that it takes.
Specification: `SPEC_FULL.md` §6.
-/

namespace DebugProbe

/-- Failures of the byte pipe itself. What only a bus can report that has no implementation here, a
failure of a HID interface, is left out. -/
inductive TransportError where
  | timeout
  | disconnected
  /-- The bus failed, for a reason that the operating system gives. -/
  | usb (reason : String)
  deriving DecidableEq, Repr

namespace TransportError

/-- The failure in words. -/
def message : TransportError → String
  | timeout => "Timeout in USB communication"
  | disconnected => "The probe was disconnected"
  | usb _ => "Error in the USB access"

/-- What lies behind the failure. -/
def causes : TransportError → List String
  | usb reason => [reason]
  | _ => []

end TransportError

/-- A pipe for frames to and from a probe, as a state `σ`. -/
class Transport (σ : Type) where
  /-- Sends a command frame. -/
  write (frame : Bytes) : Action σ TransportError Unit
  /-- Takes the next answer frame. -/
  read : Action σ TransportError Bytes
  /-- Drops every answer that is still under way. -/
  drain : σ → σ
  /-- The largest frame in use. -/
  packetSize : σ → Nat
  /-- Changes the largest frame in use. -/
  setPacketSize : Nat → σ → σ
  /-- How often the target can be looked at again before `time` milliseconds are over, with `pause`
  milliseconds before each look. By default exchanges take no time. -/
  polls (time pause : Nat) : σ → Nat := fun _ ↦ (time + pause - 1) / pause

end DebugProbe
