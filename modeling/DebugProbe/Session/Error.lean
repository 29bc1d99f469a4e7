import DebugProbe.Link.Error

/-!
# Failures of a session

A failed access tells which operation it belonged to and why it failed. Connecting fails for reasons
of its own, because of an access, or because of a command.
Specification: `SPEC_FULL.md` §7.
-/

namespace DebugProbe

/-- The operation that an access belongs to. -/
inductive Operation where
  | readDp (address : UInt8)
  | writeDp (address : UInt8) (value : UInt32)
  | readAp (address : UInt32)
  | writeAp (address : UInt32) (value : UInt32)
  | readMemory (address : UInt32) (size : Nat)
  | writeMemory (address : UInt32) (size : Nat)
  | queue (access : RegisterAccess)
  | flush
  | clearSticky
  deriving DecidableEq, Repr

/-- The operation in words. -/
def Operation.text : Operation → String
  | readDp address => "reading DP register " ++ Hex.marked 2 address.toNat
  | writeDp address value =>
    "writing " ++ Hex.marked 8 value.toNat ++ " to DP register " ++ Hex.marked 2 address.toNat
  | readAp address => "reading AP register " ++ Hex.marked 8 address.toNat
  | writeAp address value =>
    "writing " ++ Hex.marked 8 value.toNat ++ " to AP register " ++ Hex.marked 8 address.toNat
  | readMemory address size =>
    "reading " ++ toString size ++ " bytes at " ++ Hex.marked 8 address.toNat
  | writeMemory address size =>
    "writing " ++ toString size ++ " bytes at " ++ Hex.marked 8 address.toNat
  | queue access => "queueing " ++ access.text
  | flush => "flushing the transfer batch"
  | clearSticky => "clearing sticky errors"

/-- An operation that failed. -/
structure OperationError where
  operation : Operation
  cause : AccessError
  deriving DecidableEq, Repr

namespace OperationError

/-- The failure in words. -/
def message (error : OperationError) : String := error.operation.text ++ " failed"

/-- What lies behind the failure. -/
def causes (error : OperationError) : List String := error.cause.message :: error.cause.causes

end OperationError

/-- Why a session operation other than an access failed. -/
inductive SessionError where
  | unsupportedProtocol (requested : WireProtocol)
  | connectFailed (attempts : Nat)
  | multidropUnsupported
  | powerUpTimeout
  | operation (error : OperationError)
  | command (error : CommandError)
  deriving DecidableEq, Repr

namespace SessionError

/-- The failure in words. -/
def message : SessionError → String
  | unsupportedProtocol requested =>
    "the probe supports neither " ++ requested.name ++ " nor a usable fallback"
  | connectFailed attempts =>
    "the probe failed to initialize the port after " ++ toString attempts ++ " attempts"
  | multidropUnsupported => "multi-drop SWD is not supported by this probe or protocol"
  | powerUpTimeout => "the debug and system power domains did not come up in time"
  | operation error => error.message
  | command _ => "error communicating with the probe"

/-- What lies behind the failure. -/
def causes : SessionError → List String
  | operation error => error.causes
  | command error => error.message :: error.causes
  | _ => []

end SessionError

end DebugProbe
