import DebugProbe.Proofs.Link.Queue
import DebugProbe.Proofs.Register.Reach

/-!
# Register accesses at the target

Where SELECT follows the accesses that complete, a batch makes the target perform the register
accesses that it carries: each one while SELECT names the register that was asked for.
-/

namespace DebugProbe

/-- What SELECT holds after an access completed: only a write at its address changes it. -/
def Transfer.selectAfter (transfer : Transfer) (select : UInt32) : UInt32 :=
  if transfer.port = .debug ∧ transfer.address &&& 0x0C = DebugPort.selectAddress then
    transfer.value.getD select
  else select

/-- Accesses to access ports leave SELECT alone. -/
theorem Transfer.selectAfter_of_access {transfer : Transfer} (side : transfer.port = .access)
    (select : UInt32) : transfer.selectAfter select = select :=
  if_neg fun both ↦ Port.noConfusion (side.symm.trans both.1)

/-- What is left on the wire of an address is left of it again. -/
theorem Transfer.and_wire (address : UInt8) : (address &&& 0x0C) &&& 0x0C = address &&& 0x0C := by
  rw [UInt8.and_assoc]
  rfl

/-- On the wire two bits of the address are left. -/
theorem RegisterAccess.address_wire (access : RegisterAccess) :
    access.wire.address = access.register.register &&& 0x0C := Transfer.and_wire _

/-- What is believed of SELECT is true, if anything is. -/
def Select.Agrees (believed : Option Select) (select : UInt32) : Prop :=
  ∀ held, believed = some held → held.word = select

/-- A write to SELECT is addressed as one, and not by an alias of its address. -/
def RegisterAccess.Plain : RegisterAccess → Prop
  | .write (.debug address) _ =>
    address &&& 0x0C = DebugPort.selectAddress → address = DebugPort.selectAddress
  | _ => True

/-- Accesses to access ports do not write SELECT. -/
theorem RegisterAccess.plain_of_access {access : RegisterAccess}
    (side : access.register.port = .access) : access.Plain := by
  cases access with
  | read register => trivial
  | write register value =>
    cases register with
    | debug address => nomatch side
    | access accessPort address => trivial

/-- The host remembers an entry as a write of SELECT exactly if it is one. -/
def BatchEntry.Remembered (entry : BatchEntry) : Prop :=
  ∀ select, entry.wire.selectAfter select = (entry.select.map Select.word).getD select

namespace BatchEntry

private theorem selectAddress_and : DebugPort.selectAddress &&& 0x0C = DebugPort.selectAddress := by
  decide

theorem remembered_selecting (select : Select) : (selecting select).Remembered :=
  fun _ ↦ if_pos ⟨rfl, (Transfer.and_wire _).trans selectAddress_and⟩

/-- Plain accesses are remembered. -/
theorem remembered_ofAccess {access : RegisterAccess} (plain : access.Plain) (index : Nat) :
    (ofAccess access index).Remembered := by
  intro select
  have address : access.wire.address &&& 0x0C = access.register.register &&& 0x0C := by
    rw [access.address_wire, Transfer.and_wire]
  cases access with
  | read register =>
    have unchanged : (ofAccess (.read register) index).wire.selectAfter select = select :=
      ite_self select
    rw [unchanged]
    rfl
  | write register value =>
    cases register with
    | access accessPort address =>
      exact if_neg fun both ↦ nomatch both.1
    | debug register =>
      by_cases isSelect : register = DebugPort.selectAddress
      · subst isSelect
        rw [wire_ofAccess]
        have writes : (RegisterAccess.write (.debug DebugPort.selectAddress) value).wire.selectAfter
            select = value := if_pos ⟨rfl, address.trans selectAddress_and⟩
        rw [writes]
        rfl
      · have other : (ofAccess (.write (.debug register) value) index).wire.selectAfter select =
            select := by
          refine if_neg fun both ↦ isSelect (plain ?_)
          rw [← both.2]
          exact address.symm
        rw [other]
        unfold ofAccess
        dsimp only
        rw [if_neg isSelect]
        rfl

end BatchEntry

/-- What is believed of SELECT stays true while remembered entries complete. -/
theorem Select.Agrees.after {believed : Option Select} {select : UInt32}
    (agrees : Agrees believed select) {entry : BatchEntry} (remembered : entry.Remembered) :
    Agrees (entry.select.or believed) (entry.wire.selectAfter select) := by
  intro held known
  rw [remembered select]
  cases written : entry.select with
  | none =>
    rw [written, Option.none_or] at known
    exact agrees held known
  | some value =>
    rw [written] at known
    obtain rfl := Option.some.inj known
    rfl

namespace TargetModel

variable {τ : Type} (model : TargetModel τ)

/-- SELECT follows the accesses that complete. -/
structure TracksSelect (select : τ → UInt32) : Prop where
  completes : ∀ {transfer word state next}, model.completes transfer word state next →
    select next = transfer.selectAfter (select state)
  refuses : ∀ {transfer code state next}, model.refuses transfer code state next →
    select next = select state

/-- Register accesses are performed in order, each once and while SELECT names its register, with
refusals and writes of SELECT before, between and after them. -/
inductive Performed (select : τ → UInt32) :
    List RegisterAccess → τ → List (Option UInt32) → τ → Prop
  | nil (state : τ) : Performed select [] state [] state
  | refused {transfer : Transfer} {accesses : List RegisterAccess} {state next last : τ}
      {data : List (Option UInt32)} {code : UInt8} (step : model.refuses transfer code state next)
      (later : Performed select accesses next data last) :
      Performed select accesses state data last
  | selected {value : Select} {accesses : List RegisterAccess} {state next last : τ}
      {word : Option UInt32} {data : List (Option UInt32)}
      (step : model.completes (BatchEntry.selecting value).wire word state next)
      (later : Performed select accesses next data last) :
      Performed select accesses state data last
  | access {access : RegisterAccess} {rest : List RegisterAccess} {state next last : τ}
      {word : Option UInt32} {data : List (Option UInt32)}
      (reached : access.register.ReachedUnder (select state))
      (kind : word.isSome = access.wire.isRead)
      (step : model.completes access.wire word state next)
      (later : Performed select rest next data last) :
      Performed select (access :: rest) state (word :: data) last

variable {model} {select : τ → UInt32}

/-- What is performed in two goes is performed in one. -/
theorem Performed.append {first second : List RegisterAccess} {state middle last : τ}
    {data later : List (Option UInt32)} (performed : model.Performed select first state data middle)
    (next : model.Performed select second middle later last) :
    model.Performed select (first ++ second) state (data ++ later) last := by
  induction performed with
  | nil state => exact next
  | refused step _ ih => exact .refused step (ih next)
  | selected step _ ih => exact .selected step (ih next)
  | access reached kind step _ ih => exact .access reached kind step (ih next)

/-- The first of several accesses is carried out before the others. -/
theorem Carries.head {transfer : Transfer} {rest : List Transfer} {state last : τ}
    {data : List (Option UInt32)} (carries : model.Carries (transfer :: rest) state data last) :
    ∃ word later ready next, data = word :: later ∧ word.isSome = transfer.isRead ∧
      model.Carries [] state [] ready ∧ model.completes transfer word ready next ∧
      model.Carries rest next later last := by
  generalize shape : transfer :: rest = transfers at carries
  induction carries with
  | nil state => nomatch shape
  | refused step _ ih =>
    obtain ⟨word, later, ready, next, same, kind, refusals, completes, others⟩ := ih shape
    exact ⟨word, later, ready, next, same, kind, .refused step refusals, completes, others⟩
  | @completed transfer' rest' state next last word later kind step others ih =>
    obtain ⟨rfl, rfl⟩ := List.cons.inj shape
    exact ⟨word, later, state, next, rfl, kind, .nil _, step, others⟩

/-- Refusals alone change nothing about SELECT. -/
theorem Carries.refusals (tracks : model.TracksSelect select) {state last : τ}
    {data : List (Option UInt32)} (carries : model.Carries [] state data last) :
    data = [] ∧ select last = select state ∧ model.Performed select [] state [] last := by
  generalize shape : ([] : List Transfer) = transfers at carries
  induction carries with
  | nil state => exact ⟨rfl, rfl, .nil _⟩
  | refused step _ ih =>
    obtain ⟨none, same, performed⟩ := ih shape
    exact ⟨none, same.trans (tracks.refuses step), .refused step performed⟩
  | completed kind step _ ih => nomatch shape

private theorem completed_ofAccess (access : RegisterAccess) (index : Nat)
    (rest : List BatchEntry) (word : Option UInt32) (data : List (Option UInt32)) :
    Batch.completed (.ofAccess access index :: rest) (word :: data) =
      ⟨index, .ok, word⟩ :: Batch.completed rest data :=
  Batch.completed_cons _ rest word data

private theorem completed_selecting (needed : Select) (rest : List BatchEntry)
    (word : Option UInt32) (data : List (Option UInt32)) :
    Batch.completed (.selecting needed :: rest) (word :: data) = Batch.completed rest data :=
  Batch.completed_cons _ rest word data

/-- A write of SELECT in front of an access leaves what is believed of SELECT true. -/
private theorem carries_selecting (tracks : model.TracksSelect select) {needed : Select}
    {rest : List Transfer} {state last : τ} {word : Option UInt32} {data : List (Option UInt32)}
    (carries : model.Carries ((BatchEntry.selecting needed).wire :: rest) state (word :: data)
      last) :
    ∃ next, select next = needed.word ∧ model.Performed select [] state [] next ∧
      model.Carries rest next data last := by
  obtain ⟨word', data', ready, next, same, kind, refusals, completes, later⟩ := carries.head
  obtain ⟨rfl, rfl⟩ := List.cons.inj same
  obtain ⟨-, -, before⟩ := refusals.refusals tracks
  have written := tracks.completes completes
  rw [BatchEntry.remembered_selecting needed] at written
  exact ⟨next, written, before.append (.selected completes (.nil next)), later⟩

/-- An access behind those that were carried out is performed. -/
private theorem carries_access (tracks : model.TracksSelect select) {access : RegisterAccess}
    {index : Nat} {held : Option Select} {rest : List Transfer} {state last : τ}
    {word : Option UInt32} {data : List (Option UInt32)} (plain : access.Plain)
    (agrees : Select.Agrees held (select state))
    (reached : access.register.ReachedUnder (select state))
    (carries : model.Carries (access.wire :: rest) state (word :: data) last) :
    ∃ next, Select.Agrees ((BatchEntry.ofAccess access index).select.or held) (select next) ∧
      model.Performed select [access] state [word] next ∧ model.Carries rest next data last := by
  obtain ⟨word', data', ready, next, same, kind, refusals, completes, later⟩ := carries.head
  obtain ⟨rfl, rfl⟩ := List.cons.inj same
  obtain ⟨-, unchanged, before⟩ := refusals.refusals tracks
  refine ⟨next, ?_, before.append (.access ?_ kind completes (.nil next)), later⟩
  · rw [tracks.completes completes, unchanged]
    exact agrees.after (BatchEntry.remembered_ofAccess plain index)
  · rw [unchanged]
    exact reached

/-- The entries that accesses need make the target perform these accesses, as far as the entries are
carried out, and keep what is believed of SELECT true. -/
theorem CarriesEntries.performed (tracks : model.TracksSelect select)
    {accesses : List RegisterAccess} {held : Option Select} {index : Nat} {state last : τ}
    {data : List (Option UInt32)} (plain : ∀ access ∈ accesses, access.Plain)
    (agrees : Select.Agrees held (select state))
    (carries : model.CarriesEntries (Batch.entriesFrom held index accesses) state data last) :
    model.Performed select
        (accesses.take (Batch.completed (Batch.entriesFrom held index accesses) data).length) state
        ((Batch.completed (Batch.entriesFrom held index accesses) data).map AccessResponse.value)
        last ∧
      Select.Agrees
        (selectAfter held ((Batch.entriesFrom held index accesses).take data.length))
        (select last) := by
  induction accesses generalizing held index state data with
  | nil =>
    obtain rfl := List.eq_nil_of_length_eq_zero (Nat.le_zero.mp carries.1)
    obtain ⟨-, same, performed⟩ := carries.2.refusals tracks
    exact ⟨performed, by rw [same]; exact agrees⟩
  | cons access rest ih =>
    have plainFirst := plain access List.mem_cons_self
    have plainRest := fun other member ↦ plain other (List.mem_cons_of_mem access member)
    obtain ⟨le, carries⟩ := carries
    cases data with
    | nil =>
      obtain ⟨-, same, performed⟩ := carries.refusals tracks
      rw [Batch.completed_nil]
      exact ⟨performed, by rw [same]; exact agrees⟩
    | cons word data =>
      rw [Batch.entriesFrom] at le carries ⊢
      rcases Batch.entriesFor_cases held access index with ⟨enough, shape⟩ | ⟨needed, needs, shape⟩
      · rw [shape] at le carries ⊢
        obtain ⟨next, after, performed, later⟩ := carries_access tracks plainFirst agrees
          (RegisterAddress.reachedUnder_of_none enough agrees) carries
        obtain ⟨others, believed⟩ := ih plainRest after ⟨Nat.le_of_succ_le_succ le, later⟩
        refine ⟨?_, believed⟩
        rw [List.singleton_append, completed_ofAccess]
        exact performed.append others
      · rw [shape] at le carries ⊢
        obtain ⟨middle, written, before, carries⟩ := carries_selecting tracks carries
        have agrees : Select.Agrees (some needed) (select middle) := by
          intro held known
          rw [written, ← Option.some.inj known]
        rw [List.cons_append, completed_selecting]
        cases data with
        | nil =>
          obtain ⟨-, same, performed⟩ := carries.refusals tracks
          refine ⟨before.append performed, ?_⟩
          rw [same]
          exact agrees
        | cons word data =>
          have reached := RegisterAddress.reachedUnder_of_some needs
          rw [← written] at reached
          obtain ⟨next, after, performed, later⟩ :=
            carries_access tracks plainFirst agrees reached carries
          obtain ⟨others, believed⟩ := ih plainRest after
            ⟨Nat.le_of_succ_le_succ (Nat.le_of_succ_le_succ le), later⟩
          refine ⟨?_, believed⟩
          rw [List.singleton_append, completed_ofAccess]
          exact before.append (performed.append others)

end TargetModel

end DebugProbe
