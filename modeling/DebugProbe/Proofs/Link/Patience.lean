import DebugProbe.Proofs.Link.Block

/-!
# Targets that answer in time

A target answers in time if it never refuses an access other than by a WAIT, and no access by as
many WAITs as the host bears. Frames then complete, or stop at an access that may still have to
wait.
-/

namespace DebugProbe

/-- The register that an access means on the wire. -/
def Transfer.place (transfer : Transfer) : Port × UInt8 := (transfer.port, transfer.address)

theorem RegisterAccess.place_wire (access : RegisterAccess) :
    access.wire.place = (access.register.port, access.register.wireAddress) :=
  congrArg (Prod.mk access.register.port) access.address_wire

variable {τ : Type}

/-- Exchanges with the probe do not break, and each access is answered OK after fewer than `limit`
WAITs in a row. For each register `waits` counts the WAITs to the access that is due there; accesses
to other registers in between make no difference to it. -/
structure TargetModel.Patient (model : TargetModel τ) (limit : Nat)
    (waits : Port × UInt8 → τ → Nat) : Prop where
  unbroken : ¬model.breaks
  refuses : ∀ {transfer code state next}, model.refuses transfer code state next →
    (TransferStatus.ofByte code).IsWait ∧
      waits transfer.place state < waits transfer.place next ∧
      waits transfer.place next < limit ∧ ∀ place, waits place state ≤ waits place next
  completes : ∀ {transfer word state next}, model.completes transfer word state next →
    ∀ place, place ≠ transfer.place → waits place state ≤ waits place next

namespace TargetModel.Patient

variable {model : TargetModel τ} {limit : Nat} {waits : Port × UInt8 → τ → Nat}
  {select : τ → UInt32}

/-- A frame that stops does so at an access that has to wait, and did not have to wait too often. -/
theorem answers (patient : model.Patient limit waits) {transfers : List Transfer} {state last : τ}
    {data : List (Option UInt32)} {code : UInt8}
    (answers : model.Answers transfers state data code last)
    (short : data.length < transfers.length) :
    ∃ transfer, transfers[data.length]? = some transfer ∧
      (TransferStatus.ofByte code).IsWait ∧ waits transfer.place last < limit ∧
      0 < waits transfer.place last ∧
      (data = [] → waits transfer.place state < waits transfer.place last) := by
  induction answers with
  | all success => nomatch short
  | @refused transfer rest state next code failure step =>
    obtain ⟨wait, more, few, -⟩ := patient.refuses step
    exact ⟨transfer, rfl, wait, few, Nat.zero_lt_of_lt more, fun _ ↦ more⟩
  | completed kind step later ih =>
    obtain ⟨transfer, due, wait, few, some, -⟩ := ih (Nat.lt_of_succ_lt_succ short)
    exact ⟨transfer, due, wait, few, some, nofun⟩

/-- The access that is due at a register waits on while others are performed at other registers. -/
theorem performed (patient : model.Patient limit waits) (place : Port × UInt8)
    (isAccess : place.1 = .access) {accesses : List RegisterAccess} {state last : τ}
    {data : List (Option UInt32)} (other : ∀ access ∈ accesses, access.wire.place ≠ place)
    (performed : model.Performed select accesses state data last) :
    waits place state ≤ waits place last := by
  induction performed with
  | nil state => exact Nat.le_refl _
  | refused step _ ih => exact Nat.le_trans ((patient.refuses step).2.2.2 place) (ih other)
  | selected step _ ih =>
    refine Nat.le_trans (patient.completes step place ?_) (ih other)
    rintro rfl
    nomatch isAccess
  | @access access rest state next last word data reached kind step _ ih =>
    exact Nat.le_trans
      (patient.completes step place (Ne.symm (other access List.mem_cons_self)))
      (ih fun another member ↦ other another (List.mem_cons_of_mem access member))

end TargetModel.Patient

namespace Batch

private theorem size_le (transfers : List Transfer) :
    (transfers.map Transfer.size).foldr (· + ·) 0 ≤ 5 * transfers.length := by
  induction transfers with
  | nil => exact Nat.le_refl _
  | cons transfer rest ih =>
    have size : transfer.size ≤ 5 := by
      unfold Transfer.size
      split <;> decide
    rw [List.map_cons, List.foldr_cons, List.length_cons]
    omega

/-- Four entries fit into any packet of at least 23 bytes. -/
theorem fits_of_length_le {entries : List BatchEntry} {packetSize : Nat}
    (few : entries.length ≤ 4) (room : 23 ≤ packetSize) : fits entries packetSize = true := by
  rw [fits_iff 0]
  have wires : (entries.map BatchEntry.transfer).length = entries.length := List.length_map _
  have size := size_le (entries.map BatchEntry.transfer)
  have reads := List.countP_le_length
    (p := Transfer.isRead) (l := entries.map BatchEntry.transfer)
  rw [wires] at size reads
  refine ⟨?_, ?_, ?_⟩
  · show (entries.map BatchEntry.transfer).length ≤ 255
    omega
  · show 3 + ((entries.map BatchEntry.transfer).map Transfer.size).foldr (· + ·) 0 ≤ packetSize
    omega
  · show 3 + 4 * (entries.map BatchEntry.transfer).countP Transfer.isRead ≤ packetSize
    omega

end Batch

/-- The access is to a register in one bank of one access port. -/
def RegisterAccess.InBank (accessPort bank : UInt8) (access : RegisterAccess) : Prop :=
  ∃ address, access.register = .access accessPort address ∧ address >>> 4 = bank

namespace RegisterAccess.InBank

variable {accessPort bank : UInt8} {access other : RegisterAccess}

theorem port (here : access.InBank accessPort bank) : access.register.port = .access := by
  obtain ⟨address, register, -⟩ := here
  rw [register]
  rfl

theorem sharesBank (here : access.InBank accessPort bank) (there : other.InBank accessPort bank) :
    access.register.SharesBank other.register := by
  obtain ⟨address, register, same⟩ := here
  obtain ⟨place, register', same'⟩ := there
  rw [register, register']
  exact ⟨rfl, same.trans same'.symm⟩

end RegisterAccess.InBank

namespace Batch

private theorem select_ofAccess {access : RegisterAccess} (side : access.register.port = .access)
    (index : Nat) : (BatchEntry.ofAccess access index).select = none := by
  cases access with
  | read register => rfl
  | write register value =>
    cases register with
    | debug address => nomatch side
    | access accessPort address => rfl

private theorem length_entriesFrom_of_none {held : Option Select} {index : Nat}
    {accesses : List RegisterAccess}
    (enough : ∀ access ∈ accesses,
      access.register.requiredSelect held = none ∧ access.register.port = .access) :
    (entriesFrom held index accesses).length = accesses.length := by
  induction accesses generalizing index with
  | nil => rfl
  | cons access rest ih =>
    obtain ⟨reached, side⟩ := enough access List.mem_cons_self
    have alone : entriesFor held access index = [.ofAccess access index] := by
      unfold entriesFor
      rw [reached]
      rfl
    have same : selectAfter held [.ofAccess access index] = held := by
      show (BatchEntry.ofAccess access index).select.or held = held
      rw [select_ofAccess side]
      rfl
    rw [entriesFrom, alone, same, List.length_append,
      ih fun other member ↦ enough other (List.mem_cons_of_mem access member), List.length_cons,
      Nat.add_comm]
    rfl

/-- Accesses to one bank need at most one write of SELECT. -/
theorem length_entriesFrom_le {accessPort bank : UInt8} {held : Option Select} {index : Nat}
    {accesses : List RegisterAccess}
    (same : ∀ access ∈ accesses, access.InBank accessPort bank) :
    (entriesFrom held index accesses).length ≤ accesses.length + 1 := by
  cases accesses with
  | nil => exact Nat.zero_le _
  | cons access rest =>
    have here := same access List.mem_cons_self
    rcases entriesFor_cases held access index with ⟨enough, shape⟩ | ⟨needed, needs, shape⟩
    · rw [length_entriesFrom_of_none]
      · exact Nat.le_succ _
      · intro other member
        have there := same other member
        exact ⟨(here.sharesBank there).requiredSelect_of_none enough, there.port⟩
    · have known : selectAfter held [.selecting needed, .ofAccess access index] = some needed := by
        show (BatchEntry.ofAccess access index).select.or (some needed) = some needed
        rw [select_ofAccess here.port]
        rfl
      rw [entriesFrom, shape, known, List.length_append, length_entriesFrom_of_none]
      · show 2 + rest.length ≤ rest.length + 1 + 1
        omega
      · intro other member
        have there := same other (List.mem_cons_of_mem access member)
        exact ⟨(here.sharesBank there).requiredSelect_of_some needs, there.port⟩

/-- What the first accesses need comes first. -/
theorem entriesFrom_prefix (held : Option Select) (index : Nat)
    (first second : List RegisterAccess) :
    entriesFrom held index first <+: entriesFrom held index (first ++ second) := by
  induction first generalizing held index with
  | nil => exact List.nil_prefix
  | cons access rest ih => exact (List.prefix_append_right_inj _).mpr (ih _ _)

end Batch

end DebugProbe
