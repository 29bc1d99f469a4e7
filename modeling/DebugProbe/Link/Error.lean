import DebugProbe.Probe.Error
import DebugProbe.Register.Address

/-!
# Outcomes of register accesses

Each access of a batch gets a response. An access fails because the target did not carry it out,
because the link is not in a state that allows it, or because a command failed.
Specification: `SPEC_FULL.md` §§3/7.
-/

namespace DebugProbe

/-- How an access of a batch ended. -/
inductive AccessStatus where
  | ok
  /-- The target answered FAULT, or there was a parity or protocol error. -/
  | fault
  | noResponse
  /-- The target answered WAIT until the retry limit ran out. -/
  | retryExhausted
  /-- Not attempted, because an earlier access of the batch failed. -/
  | aborted
  deriving DecidableEq, Repr

/-- The outcome of one access of a batch. -/
structure AccessResponse where
  /-- Position of the access in its batch. -/
  index : Nat
  status : AccessStatus
  /-- The value of a successful read. -/
  value : Option UInt32
  deriving DecidableEq, Repr

/-- Why an access failed. -/
inductive AccessError where
  | notConnected
  | stickyErrorPending
  | batchFull
  | batchPending
  | retryExhausted
  | fault
  | noResponse
  | aborted
  | invalidAddress (address : UInt32)
  | command (error : CommandError)
  deriving DecidableEq, Repr

namespace AccessError

/-- The failure in words. -/
def message : AccessError → String
  | notConnected => "the session is not connected"
  | stickyErrorPending => "a sticky error is pending and must be cleared first"
  | batchFull => "the batch cannot take another transfer"
  | batchPending => "a queued batch must be flushed first"
  | retryExhausted => "the target kept answering WAIT"
  | fault => "the target answered FAULT"
  | noResponse => "the target did not acknowledge"
  | aborted => "the transfer was dropped after an earlier failure"
  | invalidAddress address => Hex.marked 1 address.toNat ++ " is not a valid register address"
  | command error => error.message

/-- What lies behind the failure. -/
def causes : AccessError → List String
  | command error => error.causes
  | _ => []

/-- Whether the link to the probe can no longer be trusted. -/
def isBroken : AccessError → Bool
  | command error => error.isBroken
  | _ => false

/-- The failure that a status of a batch stands for. -/
def ofStatus : AccessStatus → AccessError
  | .fault => fault
  | .noResponse => noResponse
  | .retryExhausted => retryExhausted
  | .ok | .aborted => aborted

/-- A well-formed answer that contradicts itself or the request. -/
def unexpectedAnswer (command : Command) : AccessError :=
  .command (.exchange command (.framing .unexpectedAnswer))

end AccessError

/-- The value of a successful access, or its failure. -/
def AccessResponse.result (response : AccessResponse) : Except AccessError (Option UInt32) :=
  match response.status with
  | .ok => .ok response.value
  | failure => .error (.ofStatus failure)

end DebugProbe
