import DebugProbe.Proofs.Link.Registers
import DebugProbe.Session.Access

/-!
# What the small steps on a session yield

Rules for the steps that the operations of a session are made of.
-/

namespace DebugProbe

namespace Session

variable {σ ε α : Type} {session : Session σ}

@[simp] theorem yields_onLink {action : Action (Link σ) ε α} {done : α → Session σ → Prop}
    {failed : ε → Session σ → Prop} :
    (onLink action).Yields session done failed ↔
      action.Yields session.link (fun value link ↦ done value { session with link })
        (fun error link ↦ failed error { session with link }) := by
  unfold onLink
  rw [Action.yields_within]

@[simp] theorem yields_onProbe {action : Action σ ε α} {done : α → Session σ → Prop}
    {failed : ε → Session σ → Prop} :
    (onProbe action).Yields session done failed ↔
      action.Yields session.link.transport
        (fun value transport ↦ done value { session with link.transport := transport })
        (fun error transport ↦ failed error { session with link.transport := transport }) := by
  unfold onProbe
  rw [yields_onLink, Link.yields_onProbe]

@[simp] theorem yields_modifyState {change : LinkState → LinkState}
    {done : Unit → Session σ → Prop} {failed : ε → Session σ → Prop} :
    (modifyState change).Yields session done failed ↔
      done () { session with link.state := change session.link.state } := by
  unfold modifyState
  rw [yields_onLink, Link.yields_modifyState]

variable [Transport σ]

/-- A session gives the link up when an exchange with the probe broke. -/
def afterFailure (broken : Bool) (session : Session σ) : Session σ :=
  if broken = true then session.abandon else session

@[simp] theorem yields_operate {operation : Operation} {action : Action (Session σ) AccessError α}
    {done : α → Session σ → Prop} {failed : OperationError → Session σ → Prop} :
    (operate operation action).Yields session done failed ↔
      action.Yields session done
        (fun error next ↦ failed ⟨operation, error⟩ (next.afterFailure error.isBroken)) := by
  unfold operate
  rw [Action.yields_mapError, Action.yields_onError]
  rfl

/-- Nothing has to be put right before the next access. -/
structure Clear (session : Session σ) : Prop where
  connected : session.link.state.isConnected = true
  sticky : session.link.state.stickyError = false
  pending : session.link.state.lineResetPending = false

/-- Where nothing has to be put right nothing happens. -/
theorem yields_prepare (clear : session.Clear) {done : Unit → Session σ → Prop}
    {failed : AccessError → Session σ → Prop} :
    prepare.Yields session done failed ↔ done () session := by
  unfold prepare
  simp [clear.connected, clear.sticky, clear.pending]

end Session

namespace TruthfulProbe

variable {σ τ : Type} [Transport σ] {model : TargetModel τ} {select : τ → UInt32} {view : σ → τ}
  {ready broken : σ → Prop}

/-- A single read is performed and gives its word, or the link gives up. -/
theorem readRegister (probe : TruthfulProbe model view ready broken)
    (tracks : model.TracksSelect select) (config : TransferConfig) (register : RegisterAddress)
    {link : Link σ} (free : Link.Free select view ready link) :
    (Session.readRegister config register).Yields link
      (fun word next ↦ Link.Did model select view ready link [.read register] [some word] next)
      (fun _ next ↦
        Link.Stopped model select view ready broken link [.read register] next) := by
  have plain : (RegisterAccess.read register).Plain := trivial
  unfold Session.readRegister
  rw [Action.yields_bind]
  refine (probe.run tracks config free plain).imp ?_ (fun _ _ stopped ↦ stopped)
  rintro word next ⟨did, -⟩
  rw [Action.yields_ofExcept]
  cases word with
  | some word => exact did
  | none => exact did.stopped (did.free.stopped [])

/-- A single write is performed, or the link gives up. -/
theorem writeRegister (probe : TruthfulProbe model view ready broken)
    (tracks : model.TracksSelect select) (config : TransferConfig) {register : RegisterAddress}
    {value : UInt32} (plain : (RegisterAccess.write register value).Plain) {link : Link σ}
    (free : Link.Free select view ready link) :
    (Session.writeRegister config register value).Yields link
      (fun _ next ↦ ∃ words,
        Link.Did model select view ready link [.write register value] words next)
      (fun _ next ↦
        Link.Stopped model select view ready broken link [.write register value] next) := by
  unfold Session.writeRegister
  rw [Action.yields_bind]
  exact (probe.run tracks config free plain).imp (fun word _ performed ↦ ⟨[word], performed.1⟩)
    (fun _ _ stopped ↦ stopped)

end TruthfulProbe

end DebugProbe
