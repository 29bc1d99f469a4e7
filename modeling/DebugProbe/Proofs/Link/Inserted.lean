import DebugProbe.Proofs.Link.Performed
import Mathlib.Data.List.Chain

/-!
# Writes of SELECT among the accesses

A batch carries the accesses that were queued and, in front of some of them, writes of SELECT that
nobody asked for. SELECT can be followed through the transfers of the batch, whoever asked for them:
each banked access meets its bank, and a write is inserted only where it otherwise would not.
-/

namespace DebugProbe

/-- What a transfer writes to SELECT, `none` unless it is such a write. -/
def Transfer.written (transfer : Transfer) : Option UInt32 :=
  if transfer.port = .debug ∧ transfer.address &&& 0x0C = DebugPort.selectAddress then
    transfer.value
  else none

theorem Transfer.selectAfter_eq (transfer : Transfer) (select : UInt32) :
    transfer.selectAfter select = transfer.written.getD select := by
  unfold selectAfter written
  split
  · rfl
  · rfl

namespace BatchEntry

private theorem eq_of_getD {first second : Option UInt32}
    (same : ∀ value, first.getD value = second.getD value) : first = second := by
  have zero := same 0
  have one := same 1
  cases first with
  | none =>
    cases second with
    | none => rfl
    | some value => exact absurd (zero.trans one.symm) (by decide)
  | some value =>
    cases second with
    | none => exact absurd (zero.symm.trans one) (by decide)
    | some other => exact congrArg some zero

/-- What is remembered of an entry is what it writes. -/
theorem Remembered.written {entry : BatchEntry} (remembered : entry.Remembered) :
    entry.wire.written = entry.select.map Select.word := by
  refine eq_of_getD fun value ↦ ?_
  rw [← Transfer.selectAfter_eq]
  exact remembered value

/-- Accesses to banked registers do not write SELECT. -/
theorem select_ofAccess {access : RegisterAccess} (banked : access.register.Banked) (index : Nat) :
    (ofAccess access index).select = none := by
  cases access with
  | read register => rfl
  | write register value =>
    cases register with
    | access accessPort address => rfl
    | debug address =>
      refine if_neg fun isSelect ↦ ?_
      have other : address &&& 0x0C = DebugPort.controlAddress := banked
      rw [isSelect] at other
      exact absurd other (by decide)

end BatchEntry

namespace Batch

/-- What is known of SELECT behind some entries, told from their transfers alone. -/
def tracked (known : Option UInt32) (entries : List BatchEntry) : Option UInt32 :=
  entries.foldl (fun known entry ↦ entry.wire.written.or known) known

/-- The entries of accesses between which no write is inserted. -/
def accessEntries (index : Nat) (accesses : List RegisterAccess) : List BatchEntry :=
  accesses.mapIdx fun position access ↦ .ofAccess access (index + position)

/-- How a batch is made up that carries some accesses and was begun while `start` was known of
SELECT. -/
structure Arranged (start : Option UInt32) (accesses : List RegisterAccess)
    (entries : List BatchEntry) : Prop where
  /-- Without the inserted writes, the accesses are left. -/
  carries : entries.filter (·.origin.isSome) = accessEntries 0 accesses
  /-- A write is inserted directly in front of an access whose register is not known to be reached.
  It lets the register be reached, and of what is known it changes nothing else. -/
  inserted : ∀ front entry back, entries = front ++ entry :: back → entry.origin = none →
    ∃ index access select rest, accesses[index]? = some access ∧
      entry = .selecting select ∧ back = .ofAccess access index :: rest ∧
      access.register.Banked ∧ access.register.ReachedUnder select.word ∧
      (∀ value, tracked start front = some value → ¬ access.register.ReachedUnder value) ∧
      select.word &&& ~~~access.register.selectMask =
        (tracked start front).getD 0 &&& ~~~access.register.selectMask
  /-- Where an access to a banked register comes, the register is known to be reached. -/
  reached : ∀ front entry back index access, entries = front ++ entry :: back →
    entry.origin = some index → accesses[index]? = some access → access.register.Banked →
    ∃ value, tracked start front = some value ∧ access.register.ReachedUnder value
  /-- Nothing is inserted between consecutive accesses to one bank. -/
  shared : ∀ before run after, accesses = before ++ run ++ after →
    (run.IsChain fun first second ↦ first.register.SharesBank second.register) →
    ∃ front back, entries = front ++ accessEntries before.length run ++ back

theorem accessEntries_cons (index : Nat) (access : RegisterAccess) (rest : List RegisterAccess) :
    accessEntries index (access :: rest) =
      .ofAccess access index :: accessEntries (index + 1) rest := by
  have shifted : (fun position other ↦ BatchEntry.ofAccess other (index + (position + 1))) =
      fun position other ↦ .ofAccess other (index + 1 + position) := by
    funext position other
    rw [Nat.add_assoc, Nat.add_comm 1]
  unfold accessEntries
  rw [List.mapIdx_cons, shifted]
  rfl

/-- What the transfers tell of SELECT is what is remembered of the entries. -/
theorem tracked_map {entries : List BatchEntry}
    (remembered : ∀ entry ∈ entries, entry.Remembered) (held : Option Select) :
    tracked (held.map Select.word) entries = (selectAfter held entries).map Select.word := by
  induction entries generalizing held with
  | nil => rfl
  | cons entry rest ih =>
    have step : entry.wire.written.or (held.map Select.word) =
        (entry.select.or held).map Select.word := by
      rw [(remembered entry List.mem_cons_self).written, Option.map_or]
    show tracked (entry.wire.written.or (held.map Select.word)) rest = _
    rw [step]
    exact ih (fun other member ↦ remembered other (List.mem_cons_of_mem entry member)) _

/-- All entries of plain accesses are remembered. -/
theorem remembered_entriesFrom {accesses : List RegisterAccess}
    (plain : ∀ access ∈ accesses, access.Plain) (held : Option Select) (index : Nat) :
    ∀ entry ∈ entriesFrom held index accesses, entry.Remembered := by
  induction accesses generalizing held index with
  | nil => nofun
  | cons access rest ih =>
    intro entry member
    rw [entriesFrom] at member
    rcases List.mem_append.mp member with here | later
    · have own := BatchEntry.remembered_ofAccess (plain access List.mem_cons_self) index
      rcases entriesFor_cases held access index with ⟨-, shape⟩ | ⟨select, -, shape⟩
      · rw [shape, List.mem_singleton] at here
        exact here ▸ own
      · rw [shape] at here
        rcases List.mem_cons.mp here with isWrite | isAccess
        · exact isWrite ▸ BatchEntry.remembered_selecting select
        · exact List.mem_singleton.mp isAccess ▸ own
    · exact ih (fun other member ↦ plain other (List.mem_cons_of_mem access member)) _ _ entry
        later

/-- Without the inserted writes, the accesses are left. -/
theorem filter_entriesFrom (held : Option Select) (index : Nat) (accesses : List RegisterAccess) :
    (entriesFrom held index accesses).filter (·.origin.isSome) = accessEntries index accesses := by
  induction accesses generalizing held index with
  | nil => rfl
  | cons access rest ih =>
    rw [entriesFrom, List.filter_append, ih, accessEntries_cons]
    rcases entriesFor_cases held access index with ⟨-, shape⟩ | ⟨select, -, shape⟩
    · rw [shape]
      rfl
    · rw [shape]
      rfl

/-- Behind the entries of a banked access it is known that its register is reached. -/
theorem exists_reachedUnder_entriesFor {access : RegisterAccess} (banked : access.register.Banked)
    (held : Option Select) (index : Nat) :
    ∃ value, selectAfter held (entriesFor held access index) = some value ∧
      access.register.ReachedUnder value.word := by
  have silent := BatchEntry.select_ofAccess banked index
  rcases entriesFor_cases held access index with ⟨enough, shape⟩ | ⟨select, needs, shape⟩
  · obtain ⟨value, rfl, reached⟩ := RegisterAddress.exists_reachedUnder_of_none banked enough
    refine ⟨value, ?_, reached⟩
    rw [shape]
    show (BatchEntry.ofAccess access index).select.or (some value) = some value
    rw [silent]
    rfl
  · refine ⟨select, ?_, RegisterAddress.reachedUnder_of_some needs⟩
    rw [shape]
    show (BatchEntry.ofAccess access index).select.or (some select) = some select
    rw [silent]
    rfl

/-- Nothing is inserted while a bank that is reached is not left. -/
theorem entriesFrom_of_reached {held : Select} {first : RegisterAccess}
    (reached : first.register.ReachedUnder held.word) {run : List RegisterAccess}
    (chain : (first :: run).IsChain fun first second ↦ first.register.SharesBank second.register)
    (index : Nat) : entriesFrom (some held) index run = accessEntries index run := by
  induction run generalizing first index with
  | nil => rfl
  | cons second rest ih =>
    obtain ⟨shares, others⟩ := List.isChain_cons_cons.mp chain
    have reached := shares.reachedUnder reached
    have alone : entriesFor (some held) second index = [.ofAccess second index] := by
      unfold entriesFor
      rw [RegisterAddress.requiredSelect_of_reachedUnder reached]
      rfl
    have unchanged : selectAfter (some held) [.ofAccess second index] = some held := by
      show (BatchEntry.ofAccess second index).select.or (some held) = some held
      rw [BatchEntry.select_ofAccess shares.banked.2]
      rfl
    rw [entriesFrom, alone, unchanged, ih reached others, accessEntries_cons]
    rfl

/-- Of consecutive accesses to one bank only the first can need a write of SELECT. -/
theorem exists_entriesFrom_of_chain {run : List RegisterAccess}
    (chain : run.IsChain fun first second ↦ first.register.SharesBank second.register)
    (held : Option Select) (index : Nat) :
    ∃ inserted, entriesFrom held index run = inserted ++ accessEntries index run := by
  cases run with
  | nil => exact ⟨[], rfl⟩
  | cons first rest =>
    have others : entriesFrom (selectAfter held (entriesFor held first index)) (index + 1) rest =
        accessEntries (index + 1) rest := by
      cases rest with
      | nil => rfl
      | cons second rest =>
        have banked := (List.isChain_cons_cons.mp chain).1.banked.1
        obtain ⟨value, known, reached⟩ := exists_reachedUnder_entriesFor banked held index
        rw [known]
        exact entriesFrom_of_reached reached chain (index + 1)
    rw [entriesFrom, others, accessEntries_cons]
    rcases entriesFor_cases held first index with ⟨-, shape⟩ | ⟨select, -, shape⟩
    · exact ⟨[], by rw [shape]; rfl⟩
    · exact ⟨[.selecting select], by rw [shape]; rfl⟩

/-- An entry is the write that is inserted for the access behind it, or an access which, if it is
banked, meets its bank. -/
theorem entry_entriesFrom {held : Option Select} {index : Nat} {accesses : List RegisterAccess}
    {front back : List BatchEntry} {entry : BatchEntry}
    (split : entriesFrom held index accesses = front ++ entry :: back) :
    ∃ position access, accesses[position]? = some access ∧
      ((∃ select rest, entry = .selecting select ∧
          back = .ofAccess access (index + position) :: rest ∧
          access.register.requiredSelect (selectAfter held front) = some select) ∨
        entry = .ofAccess access (index + position) ∧
          (access.register.Banked → ∃ value, selectAfter held front = some value ∧
            access.register.ReachedUnder value.word)) := by
  induction accesses generalizing held index front with
  | nil => exact absurd split.symm (List.append_ne_nil_of_right_ne_nil front nofun)
  | cons access rest ih =>
    have later (others : List BatchEntry)
        (split : entriesFrom (selectAfter held (entriesFor held access index)) (index + 1) rest =
          others ++ entry :: back) (behind : front = entriesFor held access index ++ others) :
        ∃ position other, (access :: rest)[position]? = some other ∧
          ((∃ select rest, entry = .selecting select ∧
              back = .ofAccess other (index + position) :: rest ∧
              other.register.requiredSelect (selectAfter held front) = some select) ∨
            entry = .ofAccess other (index + position) ∧
              (other.register.Banked → ∃ value, selectAfter held front = some value ∧
                other.register.ReachedUnder value.word)) := by
      obtain ⟨position, other, found, stands⟩ := ih split
      rw [← selectAfter_append, ← behind, Nat.add_assoc, Nat.add_comm 1] at stands
      exact ⟨position + 1, other, found, stands⟩
    have here : (access :: rest)[0]? = some access := rfl
    rw [entriesFrom] at split
    rcases entriesFor_cases held access index with ⟨enough, shape⟩ | ⟨select, needs, shape⟩
    · rw [shape] at split later
      rcases List.cons_eq_append_iff.mp split with ⟨rfl, own⟩ | ⟨others, rfl, behind⟩
      · obtain ⟨rfl, -⟩ := List.cons.inj own
        exact ⟨0, access, here, .inr ⟨rfl, fun banked ↦
          RegisterAddress.exists_reachedUnder_of_none banked enough⟩⟩
      · exact later others behind rfl
    · rw [shape] at split later
      rw [List.cons_append, List.singleton_append] at split
      rcases List.cons_eq_append_iff.mp split with ⟨rfl, own⟩ | ⟨front, rfl, behind⟩
      · obtain ⟨rfl, rfl⟩ := List.cons.inj own
        exact ⟨0, access, here, .inl ⟨select, _, rfl, rfl, needs⟩⟩
      · rcases List.cons_eq_append_iff.mp behind with ⟨rfl, own⟩ | ⟨others, rfl, beyond⟩
        · obtain ⟨rfl, -⟩ := List.cons.inj own
          exact ⟨0, access, here, .inr ⟨rfl, fun _ ↦
            ⟨select, rfl, RegisterAddress.reachedUnder_of_some needs⟩⟩⟩
        · exact later others beyond rfl

/-- The entries that accesses need are made up from these. -/
theorem arranged_entriesFrom {accesses : List RegisterAccess}
    (plain : ∀ access ∈ accesses, access.Plain) (start : Option Select) :
    Arranged (start.map Select.word) accesses (entriesFrom start 0 accesses) := by
  have known {front back : List BatchEntry} {entry : BatchEntry}
      (split : entriesFrom start 0 accesses = front ++ entry :: back) :
      tracked (start.map Select.word) front = (selectAfter start front).map Select.word := by
    refine tracked_map (fun other member ↦ remembered_entriesFrom plain start 0 other ?_) start
    rw [split]
    exact List.mem_append_left _ member
  constructor
  case carries => exact filter_entriesFrom start 0 accesses
  case inserted =>
    intro front entry back split unasked
    obtain ⟨index, access, found, ⟨select, rest, rfl, behind, needs⟩ | ⟨rfl, -⟩⟩ :=
      entry_entriesFrom split
    · rw [Nat.zero_add] at behind
      refine ⟨index, access, select, rest, found, rfl, behind,
        RegisterAddress.banked_of_some needs, RegisterAddress.reachedUnder_of_some needs, ?_, ?_⟩
      · intro value held reached
        rw [known split] at held
        obtain ⟨believed, same, rfl⟩ := Option.map_eq_some_iff.mp held
        rw [same, RegisterAddress.requiredSelect_of_reachedUnder reached] at needs
        nomatch needs
      · rw [known split, RegisterAddress.and_not_selectMask_of_some needs]
        cases selectAfter start front with
        | none => rfl
        | some held => rfl
    · nomatch unasked
  case reached =>
    intro front entry back index access split carried found banked
    obtain ⟨position, other, found', ⟨select, rest, rfl, -⟩ | ⟨rfl, meets⟩⟩ :=
      entry_entriesFrom split
    · nomatch carried
    · obtain rfl : 0 + position = index := Option.some.inj carried
      rw [Nat.zero_add, found'] at found
      obtain rfl := Option.some.inj found
      obtain ⟨value, held, reached⟩ := meets banked
      refine ⟨value.word, ?_, reached⟩
      rw [known split, held]
      rfl
  case shared =>
    intro before run after whole chain
    obtain ⟨inserted, shape⟩ := exists_entriesFrom_of_chain chain
      (selectAfter start (entriesFrom start 0 before)) before.length
    refine ⟨entriesFrom start 0 before ++ inserted,
      entriesFrom (selectAfter start (entriesFrom start 0 (before ++ run))) (before ++ run).length
        after, ?_⟩
    rw [whole, entriesFrom_append, Nat.zero_add, entriesFrom_append start 0 before run,
      Nat.zero_add, shape, ← List.append_assoc]

end Batch

/-- Batches that calls of `Link.queue` build while `start` is what is believed of SELECT when the
first access is queued. Calls that are refused may come in between. -/
inductive Link.QueuedFrom (σ : Type) (start : Option Select) :
    List (RegisterAccess × Nat) → Batch → Prop
  | empty : QueuedFrom σ start [] {}
  | queue {calls : List (RegisterAccess × Nat)} {packetSize index : Nat}
      {access : RegisterAccess} {before after : Link σ}
      (queued : QueuedFrom σ start calls before.batch)
      (first : calls = [] → start = before.state.selectCache)
      (call : (Link.queue packetSize access).outcome before = (.ok index, after)) :
      QueuedFrom σ start (calls ++ [(access, index)]) after.batch
  | refused {calls : List (RegisterAccess × Nat)} {packetSize : Nat} {access : RegisterAccess}
      {error : AccessError} {before after : Link σ}
      (queued : QueuedFrom σ start calls before.batch)
      (call : (Link.queue packetSize access).outcome before = (.error error, after)) :
      QueuedFrom σ start calls after.batch

namespace Link

variable {σ : Type} {start : Option Select}

/-- A call that queues nothing leaves the link as it is. -/
theorem eq_of_queue {packetSize : Nat} {access : RegisterAccess} {error : AccessError}
    {link next : Link σ} (call : (queue packetSize access).outcome link = (.error error, next)) :
    next = link := by
  have yields : (queue packetSize access).Yields link (fun _ _ ↦ True)
      fun _ next ↦ next = link := by
    rw [yields_queue, yields_checkReady]
    refine ⟨fun _ ↦ rfl, fun _ _ ↦ rfl, fun _ _ ↦ ?_⟩
    split
    · trivial
    · rfl
  exact (Action.yields_iff.mp yields).2 error next call

/-- Batches carry what was queued from the first call on, and each call gave the number of those
before it. -/
theorem QueuedFrom.built {calls : List (RegisterAccess × Nat)} {batch : Batch}
    (queued : QueuedFrom σ start calls batch) :
    batch.Built start (calls.map Prod.fst) ∧ calls.map Prod.snd = List.range calls.length := by
  induction queued with
  | empty => exact ⟨Batch.built_empty start, rfl⟩
  | @queue calls packetSize index access before after queued first call ih =>
    exact built_of_queue ih.1 ih.2 first call
  | @refused calls packetSize access error before after queued call ih =>
    rw [eq_of_queue call]
    exact ih

/-- Each call gives the position of its access, and the batch is made up from the accesses as long
as SELECT is not written under another address. -/
theorem QueuedFrom.arranged {calls : List (RegisterAccess × Nat)} {batch : Batch}
    (queued : QueuedFrom σ start calls batch) (plain : ∀ call ∈ calls, call.1.Plain) :
    calls.map Prod.snd = List.range calls.length ∧
      Batch.Arranged (start.map Select.word) (calls.map Prod.fst) batch.entries := by
  obtain ⟨built, positions⟩ := queued.built
  refine ⟨positions, ?_⟩
  rw [built.entries]
  refine Batch.arranged_entriesFrom (fun access member ↦ ?_) start
  obtain ⟨call, called, rfl⟩ := List.mem_map.mp member
  exact plain call called

/-- A link that is up, before anything is known of SELECT. -/
private def unselected : Link Unit where
  transport := ()
  state := { status := .connected .swd }

/-- Two accesses to one bank, a write of SELECT, an access that fits it, and one to a bank of the
debug port. -/
private def mixedAccesses : List RegisterAccess :=
  [.read (.access 0 0xF8), .write (.access 0 0xF4) 7, .write (.debug 0x8) 0x01000000,
    .read (.access 1 0x0C), .read (.debug 0x14)]

private def queuedAll (accesses : List RegisterAccess) : Link Unit :=
  accesses.foldl (fun link access ↦ ((queue 64 access).outcome link).2) unselected

/-- SELECT is written for the first two accesses together and for the last one, which keeps what the
third wrote. A further access, which would need another write, is refused for want of room. -/
theorem QueuedFrom.arranged_mixed :
    (Link.queue 31 (.read (.debug 0x4))).outcome (queuedAll mixedAccesses) =
        (.error .batchFull, queuedAll mixedAccesses) ∧
      QueuedFrom Unit none (mixedAccesses.zip [0, 1, 2, 3, 4]) (queuedAll mixedAccesses).batch ∧
      Batch.Arranged none mixedAccesses
        [.selecting ⟨0x000000F0⟩, .ofAccess (.read (.access 0 0xF8)) 0,
          .ofAccess (.write (.access 0 0xF4) 7) 1, .ofAccess (.write (.debug 0x8) 0x01000000) 2,
          .ofAccess (.read (.access 1 0x0C)) 3, .selecting ⟨0x01000001⟩,
          .ofAccess (.read (.debug 0x14)) 4] := by
  have start : QueuedFrom Unit none [] unselected.batch := .empty
  have queued : QueuedFrom Unit none (mixedAccesses.zip [0, 1, 2, 3, 4])
      (queuedAll mixedAccesses).batch :=
    .queue (.queue (.queue (.queue (.queue start (fun _ ↦ rfl) (Prod.ext rfl rfl)) (fun _ ↦ rfl)
      (Prod.ext rfl rfl)) (fun _ ↦ rfl) (Prod.ext rfl rfl)) (fun _ ↦ rfl) (Prod.ext rfl rfl))
      (fun _ ↦ rfl) (Prod.ext rfl rfl)
  have full : (Link.queue 31 (.read (.debug 0x4))).outcome (queuedAll mixedAccesses) =
      (.error .batchFull, queuedAll mixedAccesses) := rfl
  have plain : ∀ call ∈ mixedAccesses.zip [0, 1, 2, 3, 4], call.1.Plain := by
    simp [mixedAccesses, RegisterAccess.Plain, DebugPort.selectAddress]
  exact ⟨full, queued, ((QueuedFrom.refused queued full).arranged plain).2⟩

end Link

end DebugProbe
