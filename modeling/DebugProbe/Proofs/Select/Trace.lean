import DebugProbe.Proofs.Link.Performed

/-!
# What a target did while SELECT held what

The trace of a target keeps every access that it carried out, with the value that SELECT had just
then. Accesses that were asked for account for a trace if each access in it that SELECT has a say in
is the next one that was asked for, and was carried out while SELECT named its register.
-/

namespace DebugProbe

/-- Whether SELECT decides which register the access means: every register of an access port, and
the banked address of the debug port. -/
def Transfer.Banked (transfer : Transfer) : Prop :=
  transfer.port = .access ∨ transfer.address &&& 0x0C = DebugPort.controlAddress

/-- What SELECT holds, and every access that was carried out with what SELECT held before it, oldest
first. -/
structure SelectTrace where
  select : UInt32 := 0
  log : List (Transfer × UInt32) := []
  deriving DecidableEq, Repr

namespace SelectTrace

/-- Accesses that are carried out are kept, and SELECT changes only by a write at its address;
refusals change nothing. Exchanges may break. -/
def model : TargetModel SelectTrace where
  completes transfer _ before after :=
    after = ⟨transfer.selectAfter before.select, before.log ++ [(transfer, before.select)]⟩
  refuses _ _ before after := after = before
  breaks := True

theorem tracks : model.TracksSelect select where
  completes step := by rw [step]
  refuses step := by rw [step]

/-- Accesses that were asked for account for what was carried out. An access that SELECT has no say
in, such as a write of SELECT itself, may come at any time. -/
inductive Accounts : List RegisterAccess → List (Transfer × UInt32) → Prop
  | nil : Accounts [] []
  | other {transfer : Transfer} {held : UInt32} {accesses : List RegisterAccess}
      {events : List (Transfer × UInt32)} (free : ¬transfer.Banked)
      (later : Accounts accesses events) : Accounts accesses ((transfer, held) :: events)
  | access {access : RegisterAccess} {held : UInt32} {accesses : List RegisterAccess}
      {events : List (Transfer × UInt32)} (reached : access.register.ReachedUnder held)
      (later : Accounts accesses events) :
      Accounts (access :: accesses) ((access.wire, held) :: events)

/-- What happened in two goes is accounted for by what was asked for in both. -/
theorem Accounts.append {first second : List RegisterAccess}
    {events later : List (Transfer × UInt32)} (accounts : Accounts first events)
    (others : Accounts second later) : Accounts (first ++ second) (events ++ later) := by
  induction accounts with
  | nil => exact others
  | other free _ ih => exact .other free ih
  | access reached _ ih => exact .access reached ih

/-- Accesses that SELECT has no say in need not be accounted for. -/
theorem Accounts.forget {accesses : List RegisterAccess} {events : List (Transfer × UInt32)}
    (accounts : Accounts accesses events) (free : ∀ access ∈ accesses, ¬access.wire.Banked) :
    Accounts [] events := by
  induction accounts with
  | nil => exact .nil
  | other same _ ih => exact .other same (ih free)
  | access reached _ ih =>
    exact .other (free _ List.mem_cons_self) (ih fun other member ↦
      free other (List.mem_cons_of_mem _ member))

/-- The accesses account for all that happened between two traces. -/
def Logged (accesses : List RegisterAccess) (before after : SelectTrace) : Prop :=
  ∃ events, after.log = before.log ++ events ∧ Accounts accesses events

variable {before middle after : SelectTrace}

theorem Logged.refl (same : after.log = before.log) : Logged [] before after :=
  ⟨[], by rw [List.append_nil, same], .nil⟩

theorem Logged.append {first second : List RegisterAccess} (logged : Logged first before middle)
    (later : Logged second middle after) : Logged (first ++ second) before after := by
  obtain ⟨events, kept, accounts⟩ := logged
  obtain ⟨others, keptLater, accountsLater⟩ := later
  refine ⟨events ++ others, ?_, accounts.append accountsLater⟩
  rw [keptLater, kept, List.append_assoc]

/-- Accesses that SELECT has no say in need not be accounted for. -/
theorem Logged.forget {accesses : List RegisterAccess} (logged : Logged accesses before after)
    (free : ∀ access ∈ accesses, ¬access.wire.Banked) : Logged [] before after := by
  obtain ⟨events, kept, accounts⟩ := logged
  exact ⟨events, kept, accounts.forget free⟩

private theorem not_banked_selecting (value : Select) :
    ¬(BatchEntry.selecting value).wire.Banked := by
  rintro (side | address)
  · nomatch side
  · have other :
        ((DebugPort.selectAddress &&& 0x0C) &&& 0x0C : UInt8) ≠ DebugPort.controlAddress := by
      decide
    exact other address

/-- Accesses that are performed account for what happens meanwhile. -/
theorem logged_of_performed {accesses : List RegisterAccess} {words : List (Option UInt32)}
    (performed : model.Performed select accesses before words after) :
    Logged accesses before after := by
  induction performed with
  | nil state => exact .refl rfl
  | refused step later ih =>
    rw [step] at ih
    exact ih
  | selected step later ih =>
    obtain ⟨events, kept, accounts⟩ := ih
    rw [step] at kept
    exact ⟨_ :: events, by rw [kept, List.append_assoc]; rfl,
      .other (not_banked_selecting _) accounts⟩
  | access reached kind step later ih =>
    obtain ⟨events, kept, accounts⟩ := ih
    rw [step] at kept
    exact ⟨_ :: events, by rw [kept, List.append_assoc]; rfl, .access reached accounts⟩

end SelectTrace

end DebugProbe
