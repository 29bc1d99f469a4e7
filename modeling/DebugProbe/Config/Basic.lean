import DebugProbe.WireProtocol

/-!
# Configuration

The settings of the program in four sections, with their built-in defaults.
Specification: `SPEC_FULL.md` §9.
-/

namespace DebugProbe

/-- Which probe to use and how. -/
structure ProbeConfig where
  /-- The probe to open, as vendor, product and perhaps serial number. -/
  selector : Option String := none
  /-- Time allowed for each call of the transport, in milliseconds. -/
  timeout : Nat := 1000
  /-- The fastest clock that the probe can give, in hertz. -/
  maxClock : UInt32 := 10000000
  deriving DecidableEq, Repr

/-- How to connect to a target. -/
structure SessionConfig where
  protocol : WireProtocol := .swd
  /-- The clock to use, in hertz. -/
  clock : UInt32 := 1000000
  connectAttempts : Nat := 3
  /-- Use the other protocol if the probe lacks the requested one. -/
  allowFallback : Bool := true
  /-- The target to select on a multi-drop line. -/
  targetSel : Option UInt32 := none
  /-- Power up the debug and the system domain. -/
  powerUp : Bool := true
  /-- Time allowed for powering up, in milliseconds. -/
  powerUpTimeout : Nat := 1000
  /-- Instruction register lengths of the JTAG chain. -/
  jtagIrLengths : List UInt8 := [4]
  /-- Position of the debug port in the JTAG chain. -/
  jtagIndex : UInt8 := 0
  /-- The access port for memory accesses. -/
  memoryPort : UInt8 := 0
  /-- Clear sticky errors before the next access. -/
  autoClearSticky : Bool := false
  deriving DecidableEq, Repr

/-- How to retry transfers. -/
structure TransferConfig where
  /-- WAIT answers in a row after which an access is given up. -/
  waitRetryLimit : Nat := 16
  idleCycles : UInt8 := 0
  /-- Retries that the probe makes by itself before it reports WAIT. -/
  probeWaitRetry : UInt16 := 0
  matchRetry : UInt16 := 0
  deriving DecidableEq, Repr

/-- How to replace the firmware of a probe. -/
structure FirmwareConfig where
  /-- The largest chunk to send. -/
  chunkSize : Nat := 56
  handshakeAttempts : Nat := 10
  /-- Time between handshakes, in milliseconds. -/
  handshakeDelay : Nat := 100
  deriving DecidableEq, Repr

/-- All settings. -/
structure Config where
  probe : ProbeConfig := {}
  session : SessionConfig := {}
  transfer : TransferConfig := {}
  firmware : FirmwareConfig := {}
  deriving DecidableEq, Repr

/-- The transport timeout in microseconds. -/
def ProbeConfig.timeoutMicroseconds (config : ProbeConfig) : Nat := 1000 * config.timeout

end DebugProbe
