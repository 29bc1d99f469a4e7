import DebugProbe.Proofs.Memory.Footprint
import DebugProbe.Proofs.Select.Calls
import DebugProbe.Proofs.Session.Progress
import DebugProbe.Proofs.Simulator.Patient
import DebugProbe.Proofs.Simulator.Traced

/-!
# When memory accesses stay inside the range that was asked for

A plan counts addresses without bound and wraps them in its spans, and nothing else checks them. So
an access that runs past the end of the address space goes on at address zero. All other accesses
stay inside their range.
-/

namespace DebugProbe

/-- A place is among so many bytes from an address on, counted without bound. -/
def InRange (address : UInt32) (size place : Nat) : Prop :=
  address.toNat ≤ place ∧ place < address.toNat + size

/-- The range does not run past the end of the address space, or it begins at address zero. -/
def RangeFits (address : UInt32) (size : Nat) : Prop :=
  address.toNat + size ≤ UInt32.size ∨ address = 0

/-- Wrapped to 32 bits, the places of a range stay in it exactly if the range fits. -/
private theorem inRange_wrapped_iff (address : UInt32) (size : Nat) :
    (∀ place ∈ (List.range' address.toNat size).map (· % UInt32.size),
      InRange address size place) ↔ RangeFits address size := by
  have bound := address.toNat_lt
  constructor
  · intro inside
    by_cases small : address.toNat + size ≤ UInt32.size
    · exact .inl small
    · -- The byte behind the end of the address space is the one at address zero.
      have last : UInt32.size ∈ List.range' address.toNat size := by
        rw [List.mem_range'_1]
        exact ⟨Nat.le_of_lt bound, Nat.lt_of_not_le small⟩
      obtain ⟨first, -⟩ := inside _ (List.mem_map_of_mem last)
      rw [Nat.mod_self, Nat.le_zero] at first
      exact .inr (UInt32.toNat_inj.mp first)
  · intro fits place member
    obtain ⟨whole, among, rfl⟩ := List.mem_map.mp member
    rw [List.mem_range'_1] at among
    obtain ⟨low, high⟩ := among
    rcases fits with small | rfl
    · rw [Nat.mod_eq_of_lt (by omega)]
      exact ⟨low, high⟩
    · exact ⟨Nat.zero_le _, Nat.lt_of_le_of_lt (Nat.mod_le _ _) high⟩

namespace MemorySpan

/-- Every place in a planned span is in the range that the plan is made for. -/
def PlannedInside (address : UInt32) (size : Nat) : Prop :=
  ∀ span ∈ plan address size, ∀ place ∈ span.places, InRange address size place

private theorem plannedInside_iff (address : UInt32) (size : Nat) :
    PlannedInside address size ↔ RangeFits address size := by
  rw [← inRange_wrapped_iff, ← places_plan]
  simp only [PlannedInside, List.mem_flatMap]
  exact ⟨fun inside place ⟨span, planned, among⟩ ↦ inside span planned place among,
    fun inside span planned place among ↦ inside place ⟨span, planned, among⟩⟩

end MemorySpan

/-- The call reads or writes so many bytes of memory from an address on. -/
def Call.AccessesMemory (address : UInt32) (size : Nat) : Call → Prop
  | .readMemory first count => first = address ∧ count = size
  | .writeMemory first data => first = address ∧ data.length = size
  | _ => False

/-- The places that were accessed through a port of the target that a session talks to. -/
def Session.accessed {σ : Type} (view : σ → SelectTrace) (port : MemoryPort)
    (session : Session σ) : List Nat :=
  ((view session.link.transport).footprint port).places

/-- However the target answers and the exchanges go, reads and writes of so many bytes from an
address on access no place outside their range: over every steady probe and in every session that
knows what SELECT holds, whether they succeed or fail. -/
def AccessedInside (address : UInt32) (size : Nat) : Prop :=
  ∀ {σ : Type} [Transport σ] {view : σ → SelectTrace} {ready : σ → Prop},
    SteadyProbe view ready →
    ∀ {session : Session σ} {queued : List RegisterAccess}, session.Coherent view ready queued →
      ∀ call : Call, call.AccessesMemory address size →
        ∃ places, (call.next session).accessed view session.memoryPort =
            session.accessed view session.memoryPort ++ places ∧
          ∀ place ∈ places, InRange address size place

section Footprints

variable {σ : Type} {view : σ → SelectTrace} {ready : σ → Prop} {session next : Session σ}
  {address : UInt32} {size : Nat} {port : MemoryPort}
  {spans : List (MemorySpan × List RegisterAccess)}

/-- Accesses of a plan that were all carried out reach the places of its range, wrapped to 32
bits. -/
private theorem places_of_plan (planned : spans.map Prod.fst = MemorySpan.plan address size)
    (fills : ∀ pair ∈ spans, pair.1.Fills port pair.2) {trace : List RegisterAccess}
    (takesAll : MemorySpan.TakesAll port spans trace) (footprint : Footprint) :
    (footprint.after trace).places =
      footprint.places ++ (List.range' address.toNat size).map (· % UInt32.size) := by
  have inWindow := (MemorySpan.tiles_plan address size).inWindow
  rw [← planned] at inWindow
  rw [Footprint.places_of_takesAll takesAll inWindow fills, planned, MemorySpan.places_plan]

/-- An operation that asks for the accesses of a plan reaches the first places of its range, wrapped
to 32 bits. -/
private theorem accessed_of_settled {queued : List RegisterAccess}
    (planned : spans.map Prod.fst = MemorySpan.plan address size)
    (fills : ∀ pair ∈ spans, pair.1.Fills session.memoryPort pair.2)
    (settled : session.Settled view ready queued
      (MemorySpan.TakesPart session.memoryPort spans) next) :
    ∃ places, next.accessed view session.memoryPort =
        session.accessed view session.memoryPort ++ places ∧
      places <+: (List.range' address.toNat size).map (· % UInt32.size) := by
  -- What was reached is between what had been and what all accesses of the plan would reach.
  obtain ⟨-, accesses, part, logged⟩ := settled
  have reached := logged.footprint_eq (part.through fills)
  obtain ⟨trace, takesAll, rest, rfl⟩ := part
  have whole := places_of_plan planned fills takesAll
    ((view session.link.transport).footprint session.memoryPort)
  rw [Footprint.after_append, ← reached] at whole
  obtain ⟨places, grown⟩ := ((view session.link.transport).footprint
    session.memoryPort).places_prefix_after accesses
  rw [← reached] at grown
  have some := ((view next.link.transport).footprint session.memoryPort).places_prefix_after rest
  rw [whole, ← grown] at some
  exact ⟨places, grown.symm, (List.prefix_append_right_inj _).mp some⟩

namespace SteadyProbe

variable [Transport σ] (steady : SteadyProbe view ready) {queued : List RegisterAccess}
include steady

/-- A call that accesses memory reaches the first places of its range, wrapped to 32 bits. -/
theorem call_accesses (coherent : session.Coherent view ready queued) {call : Call}
    (accesses : call.AccessesMemory address size) :
    ∃ places, (call.next session).accessed view session.memoryPort =
        session.accessed view session.memoryPort ++ places ∧
      places <+: (List.range' address.toNat size).map (· % UInt32.size) := by
  cases call with
  | readMemory first count =>
    obtain ⟨rfl, rfl⟩ := accesses
    exact accessed_of_settled (MemorySpan.map_fst_reading _ _) (MemorySpan.fills_reading _ _)
      (steady.readMemory coherent first count).left
  | writeMemory first data =>
    obtain ⟨rfl, rfl⟩ := accesses
    exact accessed_of_settled (MemorySpan.map_fst_writing _ _ data)
      (MemorySpan.fills_writing _ _ data) (steady.writeMemory coherent first data).left
  | _ => exact accesses.elim

/-- A read of memory that succeeds reaches all places of its range, wrapped to 32 bits. -/
theorem readMemory_accesses (coherent : session.Coherent view ready []) (clear : session.Clear)
    (address : UInt32) (size : Nat) :
    (Session.readMemory address size).Yields session
      (fun _ next ↦ next.accessed view session.memoryPort =
        session.accessed view session.memoryPort ++
          (List.range' address.toNat size).map (· % UInt32.size))
      (fun _ _ ↦ True) := by
  unfold Session.readMemory
  rw [Session.yields_operate, Action.yields_bind, Session.yields_prepare clear,
    Action.yields_bind, Action.yields_get, Session.yields_onLink]
  refine (steady.truthful.readSpans SelectTrace.tracks _ _ _ coherent.free).imp ?_
    (fun _ _ _ ↦ trivial)
  rintro bytes link ⟨trace, found, takesAll, did, -⟩
  have fills := MemorySpan.fills_reading session.memoryPort (MemorySpan.plan address size)
  have logged := SelectTrace.logged_of_performed did.performed
  have reached := logged.footprint_eq (takesAll.through fills)
  show ((view link.transport).footprint session.memoryPort).places = _
  rw [reached, places_of_plan (MemorySpan.map_fst_reading _ _) fills takesAll]
  rfl

end SteadyProbe

end Footprints

/-- A connected session with the simulated probe and a record of what its target carries out. -/
def recordedSession : Session Traced where
  link := {
    transport := { simulator := {} }
    state := { status := .connected .swd } }

private theorem coherent_recordedSession :
    recordedSession.Coherent Traced.trace Traced.Idle [] :=
  .of_free ⟨⟨rfl, rfl, rfl⟩, rfl, .none _⟩ nofun

private theorem clear_recordedSession : recordedSession.Clear := ⟨rfl, rfl, rfl⟩

/-- With a target that answers every access at once, reads of memory succeed. -/
private theorem exists_readMemory_recordedSession (address : UInt32) (size : Nat) :
    ∃ bytes next,
      (Session.readMemory address size).outcome recordedSession = (.ok bytes, next) := by
  have calm : recordedSession.link.transport.simulator.target.Calm 16 :=
    ⟨rfl, List.forall_mem_nil _, by decide⟩
  have tracks : (Target.calmModel 16).TracksSelect Target.select :=
    ⟨Target.tracks.completes, fun step ↦ Target.tracks.refuses step.1⟩
  have patient : (Target.calmModel 16).Patient
      (Link.waitLimit recordedSession.config.transfer) _ := Target.patient 16
  have completes : (Session.readMemory address size).Yields recordedSession
      (fun _ _ ↦ True) (fun _ _ ↦ False) := by
    unfold Session.readMemory
    rw [Session.yields_operate, Action.yields_bind, Session.yields_prepare clear_recordedSession,
      Action.yields_bind, Action.yields_get, Session.yields_onLink]
    exact (Traced.truthful_target.calm 16).readSpans_completes tracks patient
      recordedSession.memoryPort _ ⟨⟨⟨rfl, rfl, rfl⟩, calm⟩, rfl, .none _⟩
      ⟨rfl, rfl, by decide⟩
  obtain ⟨bytes, next, outcome, -⟩ := completes.exists_ok
  exact ⟨bytes, next, outcome⟩

private theorem accessedInside_iff (address : UInt32) (size : Nat) :
    AccessedInside address size ↔ RangeFits address size := by
  rw [← inRange_wrapped_iff]
  constructor
  · intro inside
    obtain ⟨bytes, next, outcome⟩ := exists_readMemory_recordedSession address size
    have all := (Traced.steady.readMemory_accesses coherent_recordedSession
      clear_recordedSession address size).of_ok outcome
    obtain ⟨places, grown, within⟩ := inside Traced.steady coherent_recordedSession
      (.readMemory address size) ⟨rfl, rfl⟩
    have last : (Call.readMemory address size).next recordedSession = next :=
      congrArg Prod.snd outcome
    rw [last, all] at grown
    rw [List.append_cancel_left grown]
    exact within
  · intro inside σ _ view ready steady session queued coherent call accesses
    obtain ⟨places, grown, first⟩ := steady.call_accesses coherent accesses
    exact ⟨places, grown, fun place member ↦ inside place (first.subset member)⟩

/-- Memory accesses stay inside the range that was asked for exactly if it does not run past the end
of the address space, or begins at address zero: both the places in the planned spans and those that
the target is made to access. -/
theorem memoryAccess_inside_iff (address : UInt32) (size : Nat) :
    (MemorySpan.PlannedInside address size ↔ RangeFits address size) ∧
      (AccessedInside address size ↔ RangeFits address size) :=
  ⟨MemorySpan.plannedInside_iff address size, accessedInside_iff address size⟩

/-- Four bytes from two below the end of the address space on are not kept inside: the last two of
them are written at addresses zero and one. -/
theorem not_memoryAccess_inside_end :
    ¬MemorySpan.PlannedInside 0xFFFFFFFE 4 ∧ ¬AccessedInside 0xFFFFFFFE 4 ∧
      ((Call.writeMemory 0xFFFFFFFE [1, 2, 3, 4]).next recordedSession).accessed Traced.trace
        recordedSession.memoryPort = [0xFFFFFFFE, 0xFFFFFFFF, 0, 1] := by
  have past : ¬RangeFits 0xFFFFFFFE 4 := by
    unfold RangeFits
    decide
  refine ⟨fun inside ↦ past ((MemorySpan.plannedInside_iff _ _).mp inside),
    fun inside ↦ past ((accessedInside_iff _ _).mp inside), ?_⟩
  decide +kernel

end DebugProbe
