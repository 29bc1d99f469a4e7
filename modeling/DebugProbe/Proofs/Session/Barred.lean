import DebugProbe.Proofs.Session.Operations

/-!
# Accesses that are barred

Accesses that are made at once are barred by sticky errors, where these are left to the caller, and
by accesses that wait in the batch. Nothing has to be put right then, so each of them is refused
for that reason before anything is exchanged, and the session stays as it is.
-/

namespace DebugProbe

namespace SessionCall

/-- The operation for which a call fails, unless it is made valid and asks for nothing; `none` for a
call that is no access. -/
def access? : SessionCall → Option Operation
  | call (.readDp address) => (RegisterAddress.debug? address).map fun _ ↦ .readDp address
  | call (.writeDp address value) =>
    (RegisterAddress.debug? address).map fun _ ↦ .writeDp address value
  | call (.readAp address) => (RegisterAddress.access? address).map fun _ ↦ .readAp address
  | call (.writeAp address value) =>
    (RegisterAddress.access? address).map fun _ ↦ .writeAp address value
  | call (.readMemory address size) => if 0 < size then some (.readMemory address size) else none
  | call (.writeMemory address data) =>
    if data ≠ [] then some (.writeMemory address data.length) else none
  | call (.queue access) => some (.queue access)
  | call .flush => some .flush
  | _ => none

/-- The operation of an access that is made at once, rather than by way of the batch. -/
def direct? : SessionCall → Option Operation
  | call (.queue _) | call .flush => none
  | other => other.access?

/-- Accesses are made at once, queued or sent with the batch. -/
theorem direct_of_access {call : SessionCall} {operation : Operation}
    (asks : call.access? = some operation) :
    call.direct? = some operation ∨
      (∃ access, call = .call (.queue access) ∧ operation = .queue access) ∨
      call = .call .flush ∧ operation = .flush := by
  cases call with
  | call asked =>
    cases asked with
    | queue access => exact .inr (.inl ⟨access, rfl, (Option.some.inj asks).symm⟩)
    | flush => exact .inr (.inr ⟨rfl, (Option.some.inj asks).symm⟩)
    | _ => exact .inl asks
  | _ => exact .inl asks

end SessionCall

variable {σ α : Type} [Transport σ]

namespace Session

variable {session : Session σ} {cause : AccessError}

/-- The action fails with the error, and that is all that it does. -/
def Refuses {ε : Type} (session : Session σ) (error : ε) (action : Action (Session σ) ε α) : Prop :=
  action.Yields session (fun _ _ ↦ False) (fun failure next ↦ failure = error ∧ next = session)

omit [Transport σ] in
theorem Refuses.outcome {ε : Type} {error : ε} {action : Action (Session σ) ε α}
    (refuses : session.Refuses error action) :
    action.outcome session = (.error error, session) := by
  unfold Refuses Action.Yields at refuses
  split at refuses
  · exact refuses.elim
  · next failure next outcome =>
    obtain ⟨rfl, rfl⟩ := refuses
    exact outcome

omit [Transport σ] in
/-- A refusal of the link is one of the session. -/
theorem refuses_onLink {action : Action (Link σ) AccessError α}
    (refuses : session.link.Refuses cause action) : session.Refuses cause (onLink action) := by
  unfold Refuses
  rw [yields_onLink]
  refine refuses.imp (fun _ _ never ↦ never) ?_
  rintro _ _ ⟨same, rfl⟩
  exact ⟨same, rfl⟩

/-- An operation fails for the reason for which its access is refused. It gives nothing up for it,
as no exchange broke. -/
theorem Refuses.whole {action : Action (Session σ) AccessError α}
    (refuses : session.Refuses cause action) (unbroken : cause.isBroken = false)
    (operation : Operation) :
    session.Refuses (.operation ⟨operation, cause⟩) (whole (operate operation action)) := by
  unfold Refuses
  rw [yields_whole]
  refine Action.Yields.imp refuses (fun _ _ never ↦ never) ?_
  rintro _ _ ⟨rfl, rfl⟩
  rw [unbroken]
  exact ⟨rfl, rfl⟩

omit [Transport σ] in
/-- There is a reason to refuse accesses, and nothing that would be put right before them. -/
structure Barred (session : Session σ) (cause : AccessError) : Prop where
  connected : session.link.state.isConnected = true
  settled : session.link.state.lineResetPending = false
  manual : session.link.state.stickyError = true →
    session.config.session.autoClearSticky = false
  blocked : session.link.Blocked cause

omit [Transport σ] in
/-- Accesses that wait bar all others. -/
theorem Loaded.barred (loaded : session.Loaded) : session.Barred .batchPending :=
  ⟨loaded.connected, loaded.pending, fun sticky ↦ absurd sticky (by simp [loaded.sticky]),
    loaded.blocked⟩

namespace Barred

variable (barred : session.Barred cause)
include barred

omit [Transport σ] in
theorem unbroken : cause.isBroken = false := by
  cases barred.blocked with
  | sticky => rfl
  | batch => rfl

/-- What follows the preparation meets the session as it was. -/
theorem yields_prepare {done : Unit → Session σ → Prop} {failed : AccessError → Session σ → Prop} :
    prepare.Yields session done failed ↔ done () session :=
  yields_prepare_of_held barred.connected barred.settled barred.manual

theorem refuses_prepare {action : Action (Session σ) AccessError α}
    (refuses : session.Refuses cause action) :
    session.Refuses cause (prepare >>= fun _ ↦ action) := by
  unfold Refuses
  rw [Action.yields_bind, barred.yields_prepare]
  exact refuses

/-- An access to a valid register is refused if the link refuses it. -/
private theorem refuses_register {named : Except AccessError RegisterAddress}
    {register : RegisterAddress} (valid : named = .ok register)
    (access : TransferConfig → RegisterAddress → Action (Link σ) AccessError α)
    (refuses : ∀ config, session.link.Refuses cause (access config register)) :
    session.Refuses cause (do
      prepare
      onLink (access (← get).config.transfer (← Action.ofExcept named))) := by
  subst valid
  refine barred.refuses_prepare ?_
  unfold Refuses
  rw [Action.yields_bind, Action.yields_get, Action.yields_bind, Action.yields_ofExcept]
  exact refuses_onLink (refuses _)

private theorem refuses_read {named : Except AccessError RegisterAddress}
    {register : RegisterAddress} (valid : named = .ok register) :
    session.Refuses cause (do
      prepare
      onLink (readRegister (← get).config.transfer (← Action.ofExcept named))) :=
  barred.refuses_register valid readRegister fun config ↦
    readRegister_refuses barred.blocked config register

private theorem refuses_write {named : Except AccessError RegisterAddress}
    {register : RegisterAddress} (valid : named = .ok register) (value : UInt32) :
    session.Refuses cause (do
      prepare
      onLink (writeRegister (← get).config.transfer (← Action.ofExcept named) value)) :=
  barred.refuses_register valid (fun config register ↦ writeRegister config register value)
    fun config ↦ writeRegister_refuses barred.blocked config register value

omit [Transport σ] barred in
/-- What is to be accessed is planned for. -/
private theorem plan_ne_nil (address : UInt32) {size : Nat} (some : 0 < size) :
    MemorySpan.plan address size ≠ [] := by
  intro none
  have tiles := MemorySpan.tiles_plan address size
  rw [none] at tiles
  generalize stop : address.toNat + size = last at tiles
  cases tiles
  omega

private theorem refuses_readMemory (address : UInt32) {size : Nat} (some : 0 < size) :
    session.Refuses cause (do
      prepare
      let session ← get
      onLink (readSpans session.config.transfer session.memoryPort
        (MemorySpan.plan address size))) := by
  refine barred.refuses_prepare ?_
  unfold Refuses
  rw [Action.yields_bind, Action.yields_get]
  exact refuses_onLink (readSpans_refuses barred.blocked _ _ (plan_ne_nil address some))

private theorem refuses_writeMemory (address : UInt32) {data : Bytes} (some : data ≠ []) :
    session.Refuses cause (do
      prepare
      let session ← get
      onLink (writeSpans session.config.transfer session.memoryPort
        (MemorySpan.plan address data.length) data)) := by
  refine barred.refuses_prepare ?_
  have some := List.length_pos_iff.mpr some
  unfold Refuses
  rw [Action.yields_bind, Action.yields_get]
  exact refuses_onLink (writeSpans_refuses barred.blocked _ _ (plan_ne_nil address some) data)

omit [Transport σ] barred in
private theorem debugRegister_of_known {address : UInt8} {register : RegisterAddress}
    (known : RegisterAddress.debug? address = some register) :
    debugRegister address = .ok register := by
  unfold debugRegister
  rw [known]

omit [Transport σ] barred in
private theorem accessRegister_of_known {address : UInt32} {register : RegisterAddress}
    (known : RegisterAddress.access? address = some register) :
    accessRegister address = .ok register := by
  unfold accessRegister
  rw [known]

/-- Every access that is made at once is refused. -/
theorem refuses_direct {call : SessionCall} {operation : Operation}
    (asks : call.direct? = some operation) :
    session.Refuses (.operation ⟨operation, cause⟩) call.action := by
  have unbroken := barred.unbroken
  cases call with
  | call asked =>
    cases asked with
    | readDp address =>
      obtain ⟨register, known, rfl⟩ := Option.map_eq_some_iff.mp asks
      exact (barred.refuses_read (debugRegister_of_known known)).whole unbroken _
    | writeDp address value =>
      obtain ⟨register, known, rfl⟩ := Option.map_eq_some_iff.mp asks
      exact (barred.refuses_write (debugRegister_of_known known) value).whole unbroken _
    | readAp address =>
      obtain ⟨register, known, rfl⟩ := Option.map_eq_some_iff.mp asks
      exact (barred.refuses_read (accessRegister_of_known known)).whole unbroken _
    | writeAp address value =>
      obtain ⟨register, known, rfl⟩ := Option.map_eq_some_iff.mp asks
      exact (barred.refuses_write (accessRegister_of_known known) value).whole unbroken _
    | readMemory address size =>
      have asks : (if 0 < size then some (Operation.readMemory address size) else none) =
        some operation := asks
      split at asks
      · next positive =>
        obtain rfl := Option.some.inj asks
        exact (barred.refuses_readMemory address positive).whole unbroken _
      · nomatch asks
    | writeMemory address data =>
      have asks : (if data ≠ [] then some (Operation.writeMemory address data.length) else none) =
        some operation := asks
      split at asks
      · next nonempty =>
        obtain rfl := Option.some.inj asks
        exact (barred.refuses_writeMemory address nonempty).whole unbroken _
      · nomatch asks
    | _ => nomatch asks
  | _ => nomatch asks

end Barred

end Session

end DebugProbe
