import DebugProbe.Proofs.Link.Responses
import DebugProbe.Proofs.Link.Steps

/-!
# Batches as queues build them

Each access that is queued adds its own entry, behind a write of SELECT where one is needed. So a
batch carries the accesses in the order in which they were queued, and its last entry is one.
-/

namespace DebugProbe

/-- The access as it is put into a frame. -/
def RegisterAccess.transfer (access : RegisterAccess) : Transfer :=
  ⟨access.register.port, access.register.wireAddress, access.value?⟩

/-- The access as firmware reads it from a frame. -/
def RegisterAccess.wire (access : RegisterAccess) : Transfer := access.transfer.onWire

@[simp] theorem BatchEntry.wire_ofAccess (access : RegisterAccess) (index : Nat) :
    (ofAccess access index).wire = access.wire := rfl

namespace Batch

/-- The value of SELECT that the next access of a batch meets. -/
def current (batch : Batch) (cache : Option Select) : Option Select :=
  if batch.entries.isEmpty then cache else batch.projected

/-- An access is added exactly if the batch with it still fits into a packet. -/
theorem push?_eq_some_iff {batch next : Batch} {cache : Option Select} {packetSize : Nat}
    {access : RegisterAccess} :
    batch.push? cache packetSize access = some next ↔
      fits next.entries packetSize = true ∧
        next = ⟨batch.entries ++ entriesFor (batch.current cache) access batch.requests,
          selectAfter (batch.current cache)
            (entriesFor (batch.current cache) access batch.requests), batch.requests + 1⟩ := by
  show (if fits (batch.entries ++ entriesFor (batch.current cache) access batch.requests)
    packetSize = true then some _ else none) = some next ↔ _
  split
  · next room =>
    constructor
    · intro same
      obtain rfl := Option.some.inj same
      exact ⟨room, rfl⟩
    · rintro ⟨-, rfl⟩
      rfl
  · next noRoom =>
    constructor
    · nofun
    · rintro ⟨room, rfl⟩
      exact absurd room noRoom

/-- The write of SELECT in front of an access, if it needs one, and the access. -/
theorem entriesFor_cases (held : Option Select) (access : RegisterAccess) (index : Nat) :
    access.register.requiredSelect held = none ∧
        entriesFor held access index = [.ofAccess access index] ∨
      ∃ select, access.register.requiredSelect held = some select ∧
        entriesFor held access index = [.selecting select, .ofAccess access index] := by
  unfold entriesFor
  cases access.register.requiredSelect held with
  | none => exact .inl ⟨rfl, rfl⟩
  | some select => exact .inr ⟨select, rfl, rfl⟩

theorem entriesFor_ne_nil (held : Option Select) (access : RegisterAccess) (index : Nat) :
    entriesFor held access index ≠ [] := by
  rcases entriesFor_cases held access index with ⟨-, shape⟩ | ⟨select, -, shape⟩
  · rw [shape]
    nofun
  · rw [shape]
    nofun

/-- The entries that some accesses need, from a value of SELECT and a position on. -/
def entriesFrom (held : Option Select) (index : Nat) : List RegisterAccess → List BatchEntry
  | [] => []
  | access :: rest =>
    let added := entriesFor held access index
    added ++ entriesFrom (selectAfter held added) (index + 1) rest

theorem entriesFrom_eq_nil {held : Option Select} {index : Nat} {accesses : List RegisterAccess} :
    entriesFrom held index accesses = [] ↔ accesses = [] := by
  cases accesses with
  | nil => exact ⟨fun _ ↦ rfl, fun _ ↦ rfl⟩
  | cons access rest =>
    constructor
    · intro none
      exact absurd (List.append_eq_nil_iff.mp none).1 (entriesFor_ne_nil held access index)
    · nofun

/-- Later accesses meet the value of SELECT that the entries of earlier ones leave. -/
theorem entriesFrom_append (held : Option Select) (index : Nat)
    (first second : List RegisterAccess) :
    entriesFrom held index (first ++ second) =
      entriesFrom held index first ++
        entriesFrom (selectAfter held (entriesFrom held index first)) (index + first.length)
          second := by
  induction first generalizing held index with
  | nil => rfl
  | cons access rest ih =>
    rw [List.cons_append, entriesFrom, entriesFrom, ih, List.append_assoc, selectAfter_append,
      List.length_cons, Nat.add_assoc, Nat.add_comm 1]

@[simp] theorem entriesFrom_singleton (held : Option Select) (index : Nat)
    (access : RegisterAccess) :
    entriesFrom held index [access] = entriesFor held access index := List.append_nil _

/-- Each access has a position of its own. -/
theorem origins_entriesFrom (held : Option Select) (index : Nat)
    (accesses : List RegisterAccess) :
    (entriesFrom held index accesses).filterMap BatchEntry.origin =
      List.range' index accesses.length := by
  induction accesses generalizing held index with
  | nil => rfl
  | cons access rest ih =>
    rw [entriesFrom, List.filterMap_append, ih, List.length_cons, List.range'_succ]
    rcases entriesFor_cases held access index with ⟨-, shape⟩ | ⟨select, -, shape⟩
    · rw [shape]
      rfl
    · rw [shape]
      rfl

/-- The entries with an origin are the accesses. -/
theorem wires_entriesFrom (held : Option Select) (index : Nat) (accesses : List RegisterAccess) :
    (entriesFrom held index accesses).filterMap
      (fun entry ↦ entry.origin.map fun _ ↦ entry.wire) = accesses.map RegisterAccess.wire := by
  induction accesses generalizing held index with
  | nil => rfl
  | cons access rest ih =>
    rw [entriesFrom, List.filterMap_append, ih, List.map_cons]
    rcases entriesFor_cases held access index with ⟨-, shape⟩ | ⟨select, -, shape⟩
    · rw [shape]
      rfl
    · rw [shape]
      rfl

/-- The last entry is an access. -/
theorem last_entriesFrom (held : Option Select) (index : Nat) (accesses : List RegisterAccess) :
    ∀ entry ∈ (entriesFrom held index accesses).getLast?, entry.origin.isSome = true := by
  induction accesses generalizing held index with
  | nil => nofun
  | cons access rest ih =>
    intro entry member
    rw [entriesFrom, List.getLast?_append] at member
    cases later : (entriesFrom (selectAfter held (entriesFor held access index)) (index + 1)
      rest).getLast? with
    | some last =>
      rw [later] at member
      obtain rfl := Option.some.inj member
      exact ih _ _ last later
    | none =>
      rw [later] at member
      rcases entriesFor_cases held access index with ⟨-, shape⟩ | ⟨select, -, shape⟩
      · rw [shape] at member
        obtain rfl := Option.some.inj member
        rfl
      · rw [shape] at member
        obtain rfl := Option.some.inj member
        rfl

/-- A batch carries some accesses and was begun while SELECT was known to hold `start`. -/
structure Built (start : Option Select) (accesses : List RegisterAccess) (batch : Batch) :
    Prop where
  entries : batch.entries = entriesFrom start 0 accesses
  requests : batch.requests = accesses.length
  projected : batch.current start = selectAfter start batch.entries

theorem built_empty (start : Option Select) : Built start [] {} := ⟨rfl, rfl, rfl⟩

/-- A batch without accesses can begin with any value of SELECT. -/
theorem Built.restart {start : Option Select} {batch : Batch} (built : batch.Built start [])
    (other : Option Select) : batch.Built other [] := by
  refine ⟨built.entries, built.requests, ?_⟩
  unfold current
  rw [built.entries]
  rfl

/-- The next access meets the value of SELECT that the batch leaves; the value that is known matters
only for the first one. -/
theorem Built.current_eq {start cache : Option Select} {accesses : List RegisterAccess}
    {batch : Batch} (built : batch.Built start accesses) (same : accesses = [] → start = cache) :
    batch.current cache = selectAfter start batch.entries := by
  rw [← built.projected]
  unfold current
  split
  · next empty =>
    rw [built.entries, List.isEmpty_iff] at empty
    exact (same (entriesFrom_eq_nil.mp empty)).symm
  · rfl

/-- One more access adds its own entries. -/
theorem Built.entries_push {start cache : Option Select} {accesses : List RegisterAccess}
    {batch : Batch} (built : batch.Built start accesses) (same : accesses = [] → start = cache)
    (access : RegisterAccess) :
    batch.entries ++ entriesFor (batch.current cache) access batch.requests =
      entriesFrom start 0 (accesses ++ [access]) := by
  rw [entriesFrom_append, entriesFrom_singleton, ← built.entries, built.requests,
    built.current_eq same, Nat.zero_add]

/-- An access that is added is carried after those that were there. -/
theorem Built.push {start cache : Option Select} {accesses : List RegisterAccess}
    {batch next : Batch} {packetSize : Nat} {access : RegisterAccess}
    (built : batch.Built start accesses) (same : accesses = [] → start = cache)
    (pushed : batch.push? cache packetSize access = some next) :
    next.Built start (accesses ++ [access]) := by
  obtain ⟨-, rfl⟩ := push?_eq_some_iff.mp pushed
  constructor
  · exact built.entries_push same access
  · rw [List.length_append, built.requests]
    rfl
  · have some : (batch.entries ++ entriesFor (batch.current cache) access batch.requests).isEmpty =
        false :=
      List.isEmpty_eq_false_iff.mpr
        (List.append_ne_nil_of_right_ne_nil _ (entriesFor_ne_nil _ access _))
    have known := built.current_eq same
    unfold current at some known ⊢
    rw [some, selectAfter_append, known]
    rfl

/-- An access is added if the batch with it fits. -/
theorem Built.exists_push {start cache : Option Select} {accesses : List RegisterAccess}
    {batch : Batch} {packetSize : Nat} {access : RegisterAccess}
    (built : batch.Built start accesses) (same : accesses = [] → start = cache)
    (room : fits (entriesFrom start 0 (accesses ++ [access])) packetSize = true) :
    ∃ next, batch.push? cache packetSize access = some next := by
  rw [← built.entries_push same access] at room
  exact ⟨_, push?_eq_some_iff.mpr ⟨room, rfl⟩⟩

/-- The batch is over once all its accesses are. -/
theorem Built.drop_eq_nil {batch : Batch} {start : Option Select}
    {accesses : List RegisterAccess} (built : batch.Built start accesses) {count : Nat}
    (done : (batch.entries.drop count).filterMap BatchEntry.origin = []) :
    batch.entries.drop count = [] := by
  cases last : (batch.entries.drop count).getLast? with
  | none => exact List.getLast?_eq_none_iff.mp last
  | some entry =>
    have member := List.mem_of_getLast? last
    have carried : entry.origin.isSome = true := by
      refine last_entriesFrom start 0 accesses entry ?_
      rw [← built.entries]
      rw [List.getLast?_drop] at last
      split at last
      · nomatch last
      · exact last
    obtain ⟨index, origin⟩ := Option.isSome_iff_exists.mp carried
    have : index ∈ (batch.entries.drop count).filterMap BatchEntry.origin :=
      List.mem_filterMap.mpr ⟨entry, member, origin⟩
    rw [done] at this
    nomatch this

end Batch

/-- Batches that calls of `Link.queue` build, with the position that each call gave. -/
inductive Link.Queued (σ : Type) : List (RegisterAccess × Nat) → Batch → Prop
  | empty : Queued σ [] {}
  | queue {calls : List (RegisterAccess × Nat)} {packetSize index : Nat}
      {access : RegisterAccess} {before after : Link σ} (queued : Queued σ calls before.batch)
      (call : (Link.queue packetSize access).outcome before = (.ok index, after)) :
      Queued σ (calls ++ [(access, index)]) after.batch

namespace Link

variable {σ : Type}

/-- A call that queues an access adds it to the batch and gives the number of those before it. -/
theorem push?_of_queue {packetSize index : Nat} {access : RegisterAccess} {link next : Link σ}
    (call : (queue packetSize access).outcome link = (.ok index, next)) :
    link.batch.push? link.state.selectCache packetSize access = some next.batch ∧
      index = link.batch.requests := by
  have yields : (queue packetSize access).Yields link
      (fun index next ↦
        link.batch.push? link.state.selectCache packetSize access = some next.batch ∧
          index = link.batch.requests) fun _ _ ↦ True := by
    rw [yields_queue, yields_checkReady]
    refine ⟨fun _ ↦ trivial, fun _ _ ↦ trivial, fun _ _ ↦ ?_⟩
    split
    · next batch pushed => exact ⟨pushed, rfl⟩
    · trivial
  exact yields.of_ok call

/-- A call that queues an access leaves a batch that carries it as well, and gives its position. -/
theorem built_of_queue {calls : List (RegisterAccess × Nat)} {start : Option Select}
    {packetSize index : Nat} {access : RegisterAccess} {link next : Link σ}
    (built : link.batch.Built start (calls.map Prod.fst))
    (positions : calls.map Prod.snd = List.range calls.length)
    (first : calls = [] → start = link.state.selectCache)
    (call : (queue packetSize access).outcome link = (.ok index, next)) :
    next.batch.Built start ((calls ++ [(access, index)]).map Prod.fst) ∧
      (calls ++ [(access, index)]).map Prod.snd =
        List.range (calls ++ [(access, index)]).length := by
  obtain ⟨pushed, rfl⟩ := push?_of_queue call
  rw [List.map_append, List.map_append]
  constructor
  · exact built.push (fun none ↦ first (List.map_eq_nil_iff.mp none)) pushed
  · rw [positions, built.requests, List.length_map, List.length_append, List.length_singleton,
      List.range_succ]
    rfl

/-- Queued batches carry what was queued, and each call gave the number of those before it. -/
theorem Queued.built {calls : List (RegisterAccess × Nat)} {batch : Batch}
    (queued : Queued σ calls batch) :
    (∃ start, batch.Built start (calls.map Prod.fst)) ∧
      calls.map Prod.snd = List.range calls.length := by
  induction queued with
  | empty => exact ⟨⟨none, Batch.built_empty none⟩, rfl⟩
  | @queue calls packetSize index access before after queued call ih =>
    obtain ⟨⟨start, built⟩, positions⟩ := ih
    by_cases none : calls = []
    · subst none
      obtain ⟨grown, positions⟩ := built_of_queue (built.restart _) positions (fun _ ↦ rfl) call
      exact ⟨⟨_, grown⟩, positions⟩
    · obtain ⟨grown, positions⟩ :=
        built_of_queue built positions (fun empty ↦ absurd empty none) call
      exact ⟨⟨start, grown⟩, positions⟩

end Link

end DebugProbe
