import DebugProbe.Register.DebugPort
import DebugProbe.WireProtocol

/-!
# What the host knows about a target

The state of the link to a target's debug port: whether it is up, the value that the host believes
SELECT to hold, the identification read while connecting and the two conditions that have to be
dealt with before the next access.
Specification: `SPEC_FULL.md` §3.
-/

namespace DebugProbe

/-- Whether there is a connection to a target. -/
inductive LinkStatus where
  | disconnected
  | connecting
  | connected (protocol : WireProtocol)
  deriving DecidableEq, Repr

/-- The host's knowledge of the target's debug port. -/
structure LinkState where
  status : LinkStatus := .disconnected
  /-- The clock in use, in hertz. -/
  clock : Option UInt32 := none
  /-- The value of SELECT in the target, `none` if unknown. -/
  selectCache : Option Select := none
  /-- The target refuses accesses until its sticky errors are cleared. -/
  stickyError : Bool := false
  /-- An access went unacknowledged and the line must be reset. -/
  lineResetPending : Bool := false
  /-- The identification that the debug port gave. -/
  dpidr : Option UInt32 := none
  /-- Position of the debug port in the JTAG chain. -/
  dapIndex : UInt8 := 0
  deriving DecidableEq, Repr

namespace LinkState

/-- Whether the link is fully up. -/
def isConnected (state : LinkState) : Bool :=
  match state.status with
  | .connected _ => true
  | _ => false

/-- Whether accesses may go out, which includes the end of a connect. -/
def isActive (state : LinkState) : Bool := state.status != .disconnected

/-- The protocol of a link that is fully up. -/
def protocol? (state : LinkState) : Option WireProtocol :=
  match state.status with
  | .connected protocol => some protocol
  | _ => none

variable {state other : LinkState} {protocol : WireProtocol}

/-- A link that is fully up has a protocol. -/
theorem isConnected_iff :
    state.isConnected = true ↔ ∃ protocol, state.status = .connected protocol := by
  unfold isConnected
  cases state.status <;> simp

theorem isConnected_of_connected (connected : state.status = .connected protocol) :
    state.isConnected = true :=
  isConnected_iff.mpr ⟨protocol, connected⟩

theorem isConnected_of_disconnected (disconnected : state.status = .disconnected) :
    state.isConnected = false := by
  unfold isConnected
  rw [disconnected]

theorem isConnected_congr (same : other.status = state.status) :
    other.isConnected = state.isConnected := by
  unfold isConnected
  rw [same]

theorem isActive_of_isConnected (connected : state.isConnected = true) :
    state.isActive = true := by
  obtain ⟨protocol, status⟩ := isConnected_iff.mp connected
  unfold isActive
  rw [status]
  rfl

end LinkState

end DebugProbe
