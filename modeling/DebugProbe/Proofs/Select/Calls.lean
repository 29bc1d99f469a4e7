import DebugProbe.Proofs.Select.Connect

/-!
# Runs of a session

A caller asks a session for one operation after the other, in any order and whatever becomes of
them. As long as nothing but SELECT itself is written at an address that reads as SELECT on the
wire, what the session believes of SELECT is true after every call, and each call carries out the
accesses that were asked for, while SELECT names their registers.
-/

namespace DebugProbe

/-- What a caller can ask of a session. -/
inductive Call where
  | connect (hint : Option WireProtocol)
  | disconnect
  | readDp (address : UInt8)
  | writeDp (address : UInt8) (value : UInt32)
  | readAp (address : UInt32)
  | writeAp (address value : UInt32)
  | readMemory (address : UInt32) (size : Nat)
  | writeMemory (address : UInt32) (data : Bytes)
  | queue (access : RegisterAccess)
  | flush
  | clearStickyErrors
  | abortTransfer
  deriving DecidableEq, Repr

namespace Call

/-- The session after a call, whether the call succeeded or failed. -/
def next {σ : Type} [Transport σ] (call : Call) (session : Session σ) : Session σ :=
  match call with
  | connect hint => ((Session.connect hint).outcome session).2
  | disconnect => (Session.disconnect.outcome session).2
  | readDp address => ((Session.readDp address).outcome session).2
  | writeDp address value => ((Session.writeDp address value).outcome session).2
  | readAp address => ((Session.readAp address).outcome session).2
  | writeAp address value => ((Session.writeAp address value).outcome session).2
  | readMemory address size => ((Session.readMemory address size).outcome session).2
  | writeMemory address data => ((Session.writeMemory address data).outcome session).2
  | queue access => ((Session.queue access).outcome session).2
  | flush => (Session.flush.outcome session).2
  | clearStickyErrors => (Session.clearStickyErrors.outcome session).2
  | abortTransfer => (Session.abortTransfer.outcome session).2

/-- The access that a call adds to the batch, if there is room. -/
def queued : Call → List RegisterAccess
  | queue access => [access]
  | _ => []

/-- Which accesses a call asks for, while some accesses wait and memory is accessed through a port:
the register that it names, or those that waited, as far as they are carried out. Accesses to memory
go through the registers of the port, and a connect accesses the control register. -/
def Asks (port : MemoryPort) (waiting : List RegisterAccess) (call : Call)
    (accesses : List RegisterAccess) : Prop :=
  match call with
  | connect _ => RegisterAccess.ToControl accesses
  | readDp address => accesses <+: ((RegisterAddress.debug? address).map .read).toList
  | writeDp address value =>
    accesses <+: ((RegisterAddress.debug? address).map (.write · value)).toList
  | readAp address => accesses <+: ((RegisterAddress.access? address).map .read).toList
  | writeAp address value =>
    accesses <+: ((RegisterAddress.access? address).map (.write · value)).toList
  | readMemory _ _ | writeMemory _ _ => MemorySpan.Through port accesses
  | flush => accesses <+: waiting
  | disconnect | queue _ | clearStickyErrors | abortTransfer => accesses = []

/-- The call writes debug port registers only at addresses that are `writable`. An address that is
no register address of the debug port is refused, and need not be. -/
def Writes (writable : UInt8 → Prop) : Call → Prop
  | writeDp address _ => address &&& 0x3 = 0 → writable address
  | queue (.write (.debug address) _) => writable address
  | _ => True

end Call

/-- Of the addresses that read as SELECT on the wire only that of SELECT itself is writable. -/
def DistinguishesSelect (writable : UInt8 → Prop) : Prop :=
  ∀ address, writable address → address &&& 0x0C = DebugPort.selectAddress →
    address = DebugPort.selectAddress

/-- A session under way, with the accesses that were queued and still wait. -/
structure SessionRun (σ : Type) where
  session : Session σ
  waiting : List RegisterAccess := []

namespace SessionRun

variable {σ : Type} [Transport σ]

/-- One more call: the batch holds some of the accesses that were queued before and now. -/
def step (run : SessionRun σ) (call : Call) : SessionRun σ where
  session := call.next run.session
  waiting :=
    (run.waiting ++ call.queued).take (call.next run.session).link.batch.requests

/-- Calls one after the other. -/
def steps (run : SessionRun σ) (calls : List Call) : SessionRun σ := calls.foldl step run

variable (view : σ → SelectTrace)

/-- What the session believes of SELECT is true. -/
def Truthful (run : SessionRun σ) : Prop :=
  Select.Agrees run.session.link.state.selectCache (view run.session.link.transport).select

/-- The accesses that a call asks for account for all that the target carries out meanwhile. -/
def Accounted (run : SessionRun σ) (call : Call) : Prop :=
  ∃ accesses, call.Asks run.session.memoryPort run.waiting accesses ∧
    (view run.session.link.transport).Logged accesses
      (view (run.step call).session.link.transport)

end SessionRun

/-- The cache of SELECT can be relied on as long as debug port registers are written at writable
addresses only: over every steady probe and from every state of the target, after all calls what
the session believes is true, and the next call carries out what it asks for. -/
def SelectCacheReliable (writable : UInt8 → Prop) : Prop :=
  ∀ {σ : Type} [Transport σ] {view : σ → SelectTrace} {ready : σ → Prop},
    SteadyProbe view ready → ∀ (config : Config) {transport : σ}, ready transport →
      ∀ calls : List Call, (∀ call ∈ calls, call.Writes writable) →
        let run := SessionRun.steps ⟨.new transport config, []⟩ calls
        run.Truthful view ∧ ∀ call : Call, call.Writes writable → run.Accounted view call

private theorem toOption_debugRegister (address : UInt8) :
    (Session.debugRegister address).toOption = RegisterAddress.debug? address := by
  unfold Session.debugRegister
  cases RegisterAddress.debug? address with
  | none => rfl
  | some register => rfl

private theorem toOption_accessRegister (address : UInt32) :
    (Session.accessRegister address).toOption = RegisterAddress.access? address := by
  unfold Session.accessRegister
  cases RegisterAddress.access? address with
  | none => rfl
  | some register => rfl

namespace DistinguishesSelect

variable {writable : UInt8 → Prop} (distinguishes : DistinguishesSelect writable)
include distinguishes

/-- A write that a session takes is plain. -/
private theorem plain_writeDp {address : UInt8} {value : UInt32}
    (writes : (Call.writeDp address value).Writes writable) {register : RegisterAddress}
    (valid : Session.debugRegister address = .ok register) :
    (RegisterAccess.write register value).Plain := by
  have known := toOption_debugRegister address
  rw [valid] at known
  unfold RegisterAddress.debug? at known
  split at known
  · next aligned =>
    obtain rfl := Option.some.inj known
    exact distinguishes address (writes aligned)
  · nomatch known

/-- An access that a session queues is plain. -/
private theorem plain_queue {access : RegisterAccess}
    (writes : (Call.queue access).Writes writable) : access.Plain := by
  cases access with
  | read register => trivial
  | write register value =>
    cases register with
    | debug address => exact distinguishes address writes
    | access accessPort address => trivial

end DistinguishesSelect

/-- A write to an access port that a session takes is plain. -/
private theorem plain_writeAp {address value : UInt32} {register : RegisterAddress}
    (valid : Session.accessRegister address = .ok register) :
    (RegisterAccess.write register value).Plain := by
  have known := toOption_accessRegister address
  rw [valid] at known
  unfold RegisterAddress.access? at known
  split at known
  · obtain rfl := Option.some.inj known
    trivial
  · nomatch known

namespace SteadyProbe

variable {σ : Type} [Transport σ] {view : σ → SelectTrace} {ready : σ → Prop}
  (steady : SteadyProbe view ready) {writable : UInt8 → Prop}
  (distinguishes : DistinguishesSelect writable)
include steady distinguishes

/-- Every call leaves a coherent session and carries out what it asks for. -/
theorem call_settles {session : Session σ} {waiting : List RegisterAccess}
    (coherent : session.Coherent view ready waiting) (call : Call)
    (writes : call.Writes writable) :
    session.Settled view ready (waiting ++ call.queued) (call.Asks session.memoryPort waiting)
      (call.next session) := by
  cases call with
  | connect hint => exact (steady.connect coherent hint).left.more []
  | disconnect =>
    have idle := (steady.disconnect coherent).left
    exact idle.coherent.settled rfl idle.logged
  | readDp address =>
    have settled := (steady.read coherent (.readDp address) (Session.debugRegister address)).left
    rw [toOption_debugRegister] at settled
    exact settled.more []
  | writeDp address value =>
    have settled := (steady.write coherent (.writeDp address value)
      fun _ valid ↦ distinguishes.plain_writeDp writes valid).left
    rw [toOption_debugRegister] at settled
    exact settled.more []
  | readAp address =>
    have settled := (steady.read coherent (.readAp address) (Session.accessRegister address)).left
    rw [toOption_accessRegister] at settled
    exact settled.more []
  | writeAp address value =>
    have plain (register : RegisterAddress)
        (valid : Session.accessRegister address = .ok register) :
        (RegisterAccess.write register value).Plain := plain_writeAp valid
    have settled := (steady.write coherent (.writeAp address value) plain).left
    rw [toOption_accessRegister] at settled
    exact settled.more []
  | readMemory address size =>
    have settled := (steady.readMemory coherent address size).left
    exact (settled.imp fun _ part ↦ part.through (MemorySpan.fills_reading _ _)).more []
  | writeMemory address data =>
    have settled := (steady.writeMemory coherent address data).left
    exact (settled.imp fun _ part ↦ part.through (MemorySpan.fills_writing _ _ _)).more []
  | queue access => exact (steady.queue coherent (distinguishes.plain_queue writes)).left
  | flush => exact (steady.flush coherent).left.more []
  | clearStickyErrors => exact (steady.clearStickyErrors coherent).left.more []
  | abortTransfer => exact (steady.abortTransfer coherent).left.more []

/-- Calls leave a coherent session, with the accesses that wait in its batch. -/
theorem steps_coherent {run : SessionRun σ}
    (coherent : run.session.Coherent view ready run.waiting) {calls : List Call}
    (writes : ∀ call ∈ calls, call.Writes writable) :
    (run.steps calls).session.Coherent view ready (run.steps calls).waiting := by
  induction calls generalizing run with
  | nil => exact coherent
  | cons call calls ih =>
    have settled := steady.call_settles distinguishes coherent call (writes _ List.mem_cons_self)
    have after : (run.step call).session.Coherent view ready (run.step call).waiting :=
      settled.coherent
    exact ih after fun other member ↦ writes other (List.mem_cons_of_mem call member)

end SteadyProbe

/-- The cache of SELECT can be relied on if writes that read as SELECT go to SELECT. -/
theorem selectCacheReliable_of_distinguishes {writable : UInt8 → Prop}
    (distinguishes : DistinguishesSelect writable) : SelectCacheReliable writable := by
  intro σ _ view ready steady config transport isReady calls writes
  have start : Session.Coherent view ready [] (.new transport config) :=
    .of_free ⟨isReady, rfl, .none _⟩ nofun
  let run : SessionRun σ := ⟨.new transport config, []⟩
  have begun : run.session.Coherent view ready run.waiting := start
  have coherent := steady.steps_coherent distinguishes begun writes
  refine ⟨coherent.agrees, fun call writes ↦ ?_⟩
  exact (steady.call_settles distinguishes coherent call writes).logged

end DebugProbe
