import DebugProbe.Proofs.Memory.Lanes
import DebugProbe.Proofs.Memory.Trace

/-!
# What the spans of a memory access do

Reading the spans of an access gives the bytes of the memory, writing to them lays the data over it.
If only the first accesses of a write are performed, a prefix of the data is laid over the memory.
-/

namespace DebugProbe

namespace TargetModel

variable {τ : Type} {model : TargetModel τ} {select : τ → UInt32}

/-- What is performed in one go is performed in two. -/
theorem Performed.split {first second : List RegisterAccess} {state last : τ}
    {data : List (Option UInt32)}
    (performed : model.Performed select (first ++ second) state data last) :
    ∃ middle found later, data = found ++ later ∧ model.Performed select first state found middle ∧
      model.Performed select second middle later last := by
  generalize shape : first ++ second = accesses at performed
  induction performed generalizing first with
  | nil state =>
    obtain ⟨rfl, rfl⟩ := List.append_eq_nil_iff.mp shape
    exact ⟨state, [], [], rfl, .nil state, .nil state⟩
  | refused step _ ih =>
    obtain ⟨middle, found, later, same, before, after⟩ := ih shape
    exact ⟨middle, found, later, same, .refused step before, after⟩
  | selected step _ ih =>
    obtain ⟨middle, found, later, same, before, after⟩ := ih shape
    exact ⟨middle, found, later, same, .selected step before, after⟩
  | @access access rest state next last word data reached kind step others ih =>
    cases first with
    | nil =>
      rw [List.nil_append] at shape
      rw [shape]
      exact ⟨state, [], word :: data, rfl, .nil state, .access reached kind step others⟩
    | cons head tail =>
      obtain ⟨rfl, rest⟩ := List.cons.inj shape
      obtain ⟨middle, found, later, rfl, before, after⟩ := ih rest
      exact ⟨middle, word :: found, later, rfl, .access reached kind step before, after⟩

end TargetModel

namespace MemorySpan

variable {port : MemoryPort} {address : Nat} {memory last : Contents} {words : List UInt32}

/-- Words are read from consecutive addresses. -/
private theorem words_of_steps {count : Nat} (aligned : address % 4 = 0)
    (steps : MemorySteps port .word address (List.replicate count (.read port.drw)) memory words
      last) :
    last = memory ∧ words.length = count ∧
      Bytes.ofWords words = memory.bytes address (4 * count) := by
  induction count generalizing address words with
  | zero =>
    cases steps
    exact ⟨rfl, rfl, rfl⟩
  | succ count ih =>
    cases steps with
    | @read _ rest _ _ word words holds later =>
      obtain ⟨same, length, bytes⟩ := ih (by show (address + 4) % 4 = 0; omega) later
      rw [AccessSize.lanes_word aligned] at holds
      have first : Bytes.ofUInt32 word = memory.bytes address 4 := holds
      have others : Bytes.ofWords words = memory.bytes (address + 4) (4 * count) := bytes
      refine ⟨same, congrArg Nat.succ length, ?_⟩
      rw [Nat.mul_succ, Nat.add_comm, Contents.bytes_add, ← first, ← others]
      rfl

/-- The accesses that read a span give the bytes of the memory and leave it alone. -/
theorem reads_steps {span : MemorySpan} (begins : span.Begins address)
    (steps : MemorySteps port span.accessSize address (span.reads port) memory words last) :
    last = memory ∧ words.length = span.count ∧
      span.fromWords words = memory.bytes address span.size := by
  cases span with
  | byte location =>
    obtain rfl : location = UInt32.ofNat address := begins
    cases steps with
    | @read _ _ _ _ word _ holds later =>
      cases later
      have held : AccessSize.lanes .byte (UInt32.ofNat address) word = memory.bytes address 1 :=
        holds
      rw [AccessSize.lanes_byte] at held
      exact ⟨rfl, rfl, held⟩
  | words location count =>
    obtain ⟨rfl, aligned, -⟩ := begins
    exact words_of_steps aligned steps

/-- Words are written to consecutive addresses. -/
private theorem overlay_of_steps {values : List UInt32} (aligned : address % 4 = 0)
    (fits : address + 4 * values.length ≤ UInt32.size)
    (steps : MemorySteps port .word address (values.map (.write port.drw)) memory words last) :
    last = memory.overlay address (Bytes.ofWords values) := by
  induction values generalizing address memory with
  | nil =>
    cases steps
    exact (Contents.overlay_nil _ _).symm
  | cons value rest ih =>
    rw [List.length_cons] at fits
    cases steps with
    | write later =>
      have place : (UInt32.ofNat address).toNat = address :=
        UInt32.toNat_ofNat_of_lt' (by omega)
      rw [place, AccessSize.lanes_word aligned] at later
      rw [ih (by show (address + 4) % 4 = 0; omega) (by show address + 4 + _ ≤ _; omega) later]
      have front := Contents.overlay_append memory address (Bytes.ofUInt32 value)
        (Bytes.ofWords rest)
      rw [Bytes.length_ofUInt32] at front
      exact front.symm

/-- The first accesses that write to a span lay the first bytes over the memory. -/
theorem writes_steps {span : MemorySpan} (begins : span.Begins address) {data : Bytes}
    (size : data.length = span.size) (fits : address + span.size ≤ UInt32.size)
    {done : List RegisterAccess} (before : done <+: span.writes port data)
    (steps : MemorySteps port span.accessSize address done memory words last) :
    ∃ written, written <+: data ∧ last = memory.overlay address written ∧
      (done = span.writes port data → written = data) := by
  cases span with
  | byte location =>
    obtain rfl : location = UInt32.ofNat address := begins
    obtain ⟨byte, rfl⟩ := List.length_eq_one_iff.mp size
    rcases List.prefix_cons_iff.mp before with rfl | ⟨rest, rfl, none⟩
    · cases steps
      exact ⟨[], List.nil_prefix, (Contents.overlay_nil _ _).symm, nofun⟩
    · obtain rfl := List.prefix_nil.mp none
      refine ⟨[byte], List.prefix_rfl, ?_, fun _ ↦ rfl⟩
      have place : (UInt32.ofNat address).toNat = address :=
        UInt32.toNat_ofNat_of_lt' (Nat.lt_of_succ_le fits)
      cases steps with
      | write later =>
        cases later
        show memory.overlay (UInt32.ofNat address).toNat (AccessSize.lanes .byte
          (UInt32.ofNat address) (byte.toUInt32 <<< laneShift (UInt32.ofNat address))) = _
        rw [place, AccessSize.lanes_shifted]
  | words location count =>
    obtain ⟨rfl, aligned, -⟩ := begins
    have whole : Bytes.ofWords (data.words count) = data := Bytes.ofWords_words size
    have length : (data.words count).length = count :=
      (List.length_map _).symm.trans (length_writes port data (.words 0 count))
    have shape : done = ((data.words count).take done.length).map (.write port.drw) := by
      rw [List.map_take]
      exact List.prefix_iff_eq_take.mp before
    have few : done.length ≤ count := by
      have := before.length_le
      rw [← length]
      exact Nat.le_trans this (Nat.le_of_eq (List.length_map _))
    refine ⟨Bytes.ofWords ((data.words count).take done.length), ?_, ?_, ?_⟩
    · obtain ⟨rest, split⟩ := List.take_prefix done.length (data.words count)
      have joined : Bytes.ofWords ((data.words count).take done.length) ++ Bytes.ofWords rest =
          data := by
        refine Eq.trans ?_ whole
        conv => rhs; rw [← split]
        exact List.flatMap_append.symm
      exact ⟨_, joined⟩
    · rw [shape] at steps
      refine overlay_of_steps aligned ?_ steps
      rw [List.length_take, length]
      have : address + 4 * count ≤ UInt32.size := fits
      omega
    · intro all
      have full : done.length = (data.words count).length := by
        rw [all]
        exact List.length_map _
      rw [full, List.take_length, whole]

end MemorySpan

namespace MemoryTarget

variable {τ : Type} {model : TargetModel τ} {port : MemoryPort} {select : τ → UInt32}
  {observe : τ → PortState}

/-- Reading spans that follow each other gives the bytes of the memory and leaves it alone. -/
theorem reads_spans (target : MemoryTarget model port select observe) {address stop : Nat}
    {spans : List MemorySpan} (tiles : MemorySpan.Tiles address spans stop)
    {trace : List RegisterAccess}
    (takes : MemorySpan.TakesAll port (MemorySpan.reading port spans) trace) {state last : τ}
    {data : List (Option UInt32)} (performed : model.Performed select trace state data last) :
    (observe last).memory = (observe state).memory ∧
      MemorySpan.assemble spans (data.filterMap id) =
        (observe state).memory.bytes address (stop - address) := by
  induction tiles generalizing trace state data with
  | nil address =>
    cases takes
    obtain ⟨rfl, same⟩ := target.observe_of_none performed
    rw [same, Nat.sub_self]
    exact ⟨rfl, rfl⟩
  | @cons address stop span rest begins tiles ih =>
    cases takes with
    | cons takes others =>
      obtain ⟨middle, found, later, rfl, first, second⟩ := performed.split
      obtain ⟨done, -, all, steps⟩ := target.span_steps begins
        (fun _ member ↦ MemorySpan.register_of_mem_reads member) (MemorySpan.length_reads port span)
        takes List.prefix_rfl first
      obtain rfl := all rfl
      obtain ⟨same, count, bytes⟩ := MemorySpan.reads_steps begins steps
      obtain ⟨unchanged, more⟩ := ih others second
      refine ⟨unchanged.trans same, ?_⟩
      have length : stop - address = span.size + (stop - (address + span.size)) := by
        have := tiles.le
        omega
      rw [List.filterMap_append, MemorySpan.assemble, List.take_left' count,
        List.drop_left' count, bytes, more, same, length, Contents.bytes_add]

/-- Writing to spans that follow each other lays the data over the memory, and a prefix of the data
if only the first accesses are performed. -/
theorem writes_spans (target : MemoryTarget model port select observe) {address stop : Nat}
    {spans : List MemorySpan} (tiles : MemorySpan.Tiles address spans stop) {data : Bytes}
    (size : address + data.length = stop) (fits : stop ≤ UInt32.size)
    {trace part : List RegisterAccess}
    (takes : MemorySpan.TakesAll port (MemorySpan.writing port spans data) trace)
    (before : part <+: trace) {state last : τ} {found : List (Option UInt32)}
    (performed : model.Performed select part state found last) :
    ∃ written, written <+: data ∧
      (observe last).memory = (observe state).memory.overlay address written ∧
      (part = trace → written = data) := by
  induction tiles generalizing data trace part state found with
  | nil address =>
    have none : data.length = 0 := by omega
    obtain rfl := List.eq_nil_of_length_eq_zero none
    cases takes
    obtain rfl := List.prefix_nil.mp before
    obtain ⟨rfl, same⟩ := target.observe_of_none performed
    rw [same]
    exact ⟨[], List.nil_prefix, (Contents.overlay_nil _ _).symm, fun _ ↦ rfl⟩
  | @cons address stop span rest begins tiles ih =>
    have le := tiles.le
    have front : (data.take span.size).length = span.size := List.length_take_of_le (by omega)
    have back : address + span.size + (data.drop span.size).length = stop := by
      rw [List.length_drop]
      omega
    cases takes with
    | @cons _ _ spanTrace later _ takes others =>
      have write {part : List RegisterAccess} (before : part <+: spanTrace) {state last : τ}
          {found : List (Option UInt32)}
          (performed : model.Performed select part state found last) :
          ∃ written, written <+: data.take span.size ∧
            (observe last).memory = (observe state).memory.overlay address written ∧
            (part = spanTrace → written = data.take span.size) := by
        obtain ⟨done, prefixed, all, steps⟩ := target.span_steps begins
          (fun _ member ↦ MemorySpan.register_of_mem_writes member)
          (MemorySpan.length_writes port _ span) takes before performed
        obtain ⟨written, some, laid, whole⟩ :=
          MemorySpan.writes_steps begins front (by omega) prefixed steps
        exact ⟨written, some, laid, fun same ↦ whole (all same)⟩
      by_cases reached : spanTrace <+: part
      · obtain ⟨more, rfl⟩ := reached
        obtain ⟨middle, first, second, rfl, performed, others'⟩ := performed.split
        obtain ⟨written, -, laid, whole⟩ := write List.prefix_rfl performed
        obtain rfl := whole rfl
        obtain ⟨rest, some, laidRest, all⟩ := ih back fits others
          ((List.prefix_append_right_inj _).mp before) others'
        refine ⟨data.take span.size ++ rest, ?_, ?_, ?_⟩
        · conv => rhs; rw [← List.take_append_drop span.size data]
          exact (List.prefix_append_right_inj _).mpr some
        · rw [laidRest, laid, Contents.overlay_append, front]
        · intro same
          rw [all (List.append_cancel_left same), List.take_append_drop]
      · have short : part <+: spanTrace :=
          (List.prefix_or_prefix_of_prefix before
            (List.prefix_append spanTrace later)).resolve_right reached
        obtain ⟨written, some, laid, -⟩ := write short performed
        refine ⟨written, some.trans (List.take_prefix _ _), laid, fun all ↦ absurd ?_ reached⟩
        rw [all]
        exact List.prefix_append spanTrace later

end MemoryTarget

end DebugProbe
