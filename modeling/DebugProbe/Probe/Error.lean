import DebugProbe.Command.Request
import DebugProbe.Transport.Basic
import DebugProbe.WireProtocol

/-!
# Failures of commands

A command fails because the exchange with the probe broke, because the probe answered that it could
not do it, because its parameters do not fit into the command at all, or because no packet size
could be found. Each failure has its own message and a chain of causes, outermost first.
Specification: `SPEC_FULL.md` §7.
-/

namespace DebugProbe

/-- Why an exchange broke: the pipe failed, or what came back is no answer. -/
inductive ExchangeError where
  | transport (error : TransportError)
  | framing (error : FramingError)
  deriving DecidableEq, Repr

namespace ExchangeError

/-- The failure in words. -/
def message : ExchangeError → String
  | transport error => error.message
  | framing error => error.message

/-- What lies behind the failure. -/
def causes : ExchangeError → List String
  | transport error => error.causes
  | framing _ => []

end ExchangeError

/-- A command that the probe answered with an error. -/
inductive Rejection where
  | clock (hertz : UInt32)
  | lineSequence (sequence : LineSequence)
  | transferConfigure (settings : TransferSettings)
  | swdConfigure (settings : SwdSettings)
  | jtagConfigure (chain : JtagChain)
  | jtagScan (scan : JtagScan)
  | connect (protocol : Option WireProtocol)
  | disconnect
  | writeAbort (dapIndex : UInt8) (value : UInt32)
  | resetTarget
  deriving DecidableEq, Repr

/-- The rejection in words, with the parameters of the command. -/
def Rejection.message : Rejection → String
  | clock hertz =>
    "Setting the SWJ clock failed: " ++
      Description.record "SWJClockRequest" [("clock_speed_hz", Description.nat hertz.toNat)]
  | lineSequence sequence => "Sending an SWJ sequence failed: " ++ sequence.description
  | transferConfigure settings => "Configuring transfers failed: " ++ settings.description
  | swdConfigure settings => "Configuring SWD failed: " ++ settings.description
  | jtagConfigure chain => "Configuring the JTAG chain failed: " ++ chain.description
  | jtagScan scan => "Sending a JTAG sequence failed: " ++ scan.description
  | connect protocol =>
    "Initializing the debug port failed for protocol "
      ++ Description.option (protocol.map (·.label))
  | disconnect => "Disconnecting from the target failed."
  | writeAbort dapIndex value =>
    "Writing the ABORT register failed: " ++
      Description.record "WriteAbortRequest"
        [("dap_index", Description.nat dapIndex.toNat), ("abort", Description.nat value.toNat)]
  | resetTarget => "Resetting the target failed."

/-- Why a command failed. -/
inductive CommandError where
  /-- The exchange broke, so the link can no longer be trusted. -/
  | exchange (command : Command) (error : ExchangeError)
  /-- The probe answered with an error. -/
  | rejected (rejection : Rejection)
  /-- The parameters do not fit into a sequence command. -/
  | tooMuchData
  /-- The probe never told its packet size. -/
  | noPacketSize
  deriving DecidableEq, Repr

namespace CommandError

/-- The failure in words. -/
def message : CommandError → String
  | exchange command _ => "Error handling CMSIS-DAP command " ++ command.label
  | rejected _ => "CMSIS-DAP responded with an error"
  | tooMuchData => "Too much data provided for a sequence command"
  | noPacketSize => "Could not determine a suitable packet size for this probe"

/-- What lies behind the failure. -/
def causes : CommandError → List String
  | exchange _ error => error.message :: error.causes
  | rejected rejection => [rejection.message]
  | _ => []

/-- Whether the exchange itself broke. -/
def isBroken : CommandError → Bool
  | exchange _ _ => true
  | _ => false

end CommandError

end DebugProbe
