import DebugProbe.Proofs.Session.Batches

/-!
# The accesses of a memory access

For each span the port is set up and then the data goes through its data register, in a block for a
run of words. So a memory access is a sequence of accesses to three registers of its port.
-/

namespace DebugProbe

variable {σ τ : Type} [Transport σ]

namespace MemorySpan

/-- Number of words that go through the data register. -/
def count : MemorySpan → Nat
  | .byte _ => 1
  | .words _ count => count

/-- The accesses that read a span, once the port is set up. -/
def reads (port : MemoryPort) (span : MemorySpan) : List RegisterAccess :=
  List.replicate span.count (.read port.drw)

/-- The accesses that write bytes to a span, once the port is set up. -/
def writes (port : MemoryPort) (data : Bytes) : MemorySpan → List RegisterAccess
  | .byte address => [.write port.drw ((data.byteAt 0).toUInt32 <<< laneShift address)]
  | .words _ count => (data.words count).map (.write port.drw)

/-- A span is read through the data register. -/
theorem register_of_mem_reads {port : MemoryPort} {span : MemorySpan} {access : RegisterAccess}
    (member : access ∈ span.reads port) : access.register = port.drw := by
  rw [List.eq_of_mem_replicate member]
  rfl

@[simp] theorem length_reads (port : MemoryPort) (span : MemorySpan) :
    (span.reads port).length = span.count := List.length_replicate

/-- A span is written through the data register. -/
theorem register_of_mem_writes {port : MemoryPort} {data : Bytes} {span : MemorySpan}
    {access : RegisterAccess} (member : access ∈ span.writes port data) :
    access.register = port.drw := by
  cases span with
  | byte address =>
    rw [List.mem_singleton.mp member]
    rfl
  | words address count =>
    obtain ⟨word, -, rfl⟩ := List.mem_map.mp member
    rfl

@[simp] theorem length_writes (port : MemoryPort) (data : Bytes) (span : MemorySpan) :
    (span.writes port data).length = span.count := by
  cases span with
  | byte address => rfl
  | words address count =>
    apply (List.length_map _).trans
    show (data.words count).length = count
    induction count generalizing data with
    | zero => rfl
    | succ count ih => exact congrArg Nat.succ (ih (data.drop 4))

/-- The bytes of a span, from the words that were read. -/
def fromWords (words : List UInt32) : MemorySpan → Bytes
  | .byte address => words.map fun word ↦ (word >>> laneShift address).toUInt8
  | .words _ _ => Bytes.ofWords words

/-- The accesses of a span: the port is set up, and the address is set again for each rest of a run
of words that had to wait. -/
inductive Takes (port : MemoryPort) : MemorySpan → List RegisterAccess → List RegisterAccess → Prop
  | byte {address : UInt32} {accesses : List RegisterAccess} :
      Takes port (.byte address) accesses (Session.setUp port .byte address ++ accesses)
  | words {address : UInt32} {count : Nat} {accesses block : List RegisterAccess}
      (resumed : Link.Resumed (some ⟨port.tar, address⟩) 0 accesses block) :
      Takes port (.words address count) accesses (Session.setUp port .word address ++ block)

/-- Every span can be taken. -/
theorem exists_takes (port : MemoryPort) (span : MemorySpan) (accesses : List RegisterAccess) :
    ∃ trace, Takes port span accesses trace := by
  cases span with
  | byte address => exact ⟨_, .byte⟩
  | words address count => exact ⟨_, .words (.refl _ _ _)⟩

/-- The accesses of several spans, one span after the other. -/
inductive TakesAll (port : MemoryPort) :
    List (MemorySpan × List RegisterAccess) → List RegisterAccess → Prop
  | nil : TakesAll port [] []
  | cons {span : MemorySpan} {accesses trace later : List RegisterAccess}
      {rest : List (MemorySpan × List RegisterAccess)} (takes : Takes port span accesses trace)
      (takesAll : TakesAll port rest later) :
      TakesAll port ((span, accesses) :: rest) (trace ++ later)

/-- All spans can be taken. -/
theorem exists_takesAll (port : MemoryPort) (spans : List (MemorySpan × List RegisterAccess)) :
    ∃ trace, TakesAll port spans trace := by
  induction spans with
  | nil => exact ⟨[], .nil⟩
  | cons first rest ih =>
    obtain ⟨later, takesAll⟩ := ih
    obtain ⟨trace, takes⟩ := exists_takes port first.1 first.2
    exact ⟨_, .cons takes takesAll⟩

/-- The first of the accesses of several spans. -/
def TakesPart (port : MemoryPort) (spans : List (MemorySpan × List RegisterAccess))
    (accesses : List RegisterAccess) : Prop :=
  ∃ trace, TakesAll port spans trace ∧ accesses <+: trace

/-- None of the accesses is a part of them. -/
theorem TakesPart.none (port : MemoryPort) (spans : List (MemorySpan × List RegisterAccess)) :
    TakesPart port spans [] := by
  obtain ⟨trace, takes⟩ := exists_takesAll port spans
  exact ⟨trace, takes, List.nil_prefix⟩

/-- Spans with the accesses that read them. -/
def reading (port : MemoryPort) (spans : List MemorySpan) :
    List (MemorySpan × List RegisterAccess) :=
  spans.map fun span ↦ (span, span.reads port)

/-- Spans with the accesses that write bytes to them, one span after the other. -/
def writing (port : MemoryPort) : List MemorySpan → Bytes → List (MemorySpan × List RegisterAccess)
  | [], _ => []
  | span :: rest, data =>
    (span, span.writes port (data.take span.size)) :: writing port rest (data.drop span.size)

/-- Some accesses go to the registers of the port through which memory is accessed. -/
def Through (port : MemoryPort) (accesses : List RegisterAccess) : Prop :=
  ∀ access ∈ accesses,
    access.register = port.csw ∨ access.register = port.tar ∨ access.register = port.drw

variable {port : MemoryPort}

private theorem through_resumed {base : UInt32} {completed : Nat}
    {accesses trace : List RegisterAccess}
    (resumed : Link.Resumed (some ⟨port.tar, base⟩) completed accesses trace)
    (through : Through port accesses) : Through port trace := by
  induction resumed with
  | nil completed => exact through
  | access later ih =>
    intro access member
    rcases List.mem_cons.mp member with rfl | member
    · exact through _ List.mem_cons_self
    · exact ih (fun other among ↦ through other (List.mem_cons_of_mem _ among)) access member
  | rearm later ih =>
    intro access member
    rcases List.mem_append.mp member with first | member
    · rw [List.mem_singleton.mp first]
      exact .inr (.inl rfl)
    · exact ih through access member

private theorem through_setUp (size : AccessSize) (address : UInt32) :
    Through port (Session.setUp port size address) := by
  intro access member
  rcases List.mem_cons.mp member with rfl | last
  · exact .inl rfl
  · rw [List.mem_singleton.mp last]
    exact .inr (.inl rfl)

theorem Through.append {first second : List RegisterAccess} (through : Through port first)
    (others : Through port second) : Through port (first ++ second) :=
  fun access member ↦ (List.mem_append.mp member).elim (through access) (others access)

/-- The accesses of a span go through the data register, one for each word of the span. -/
structure Fills (port : MemoryPort) (span : MemorySpan) (accesses : List RegisterAccess) :
    Prop where
  isData : ∀ access ∈ accesses, access.register = port.drw
  count : accesses.length = span.count

theorem Fills.through {span : MemorySpan} {accesses : List RegisterAccess}
    (fills : span.Fills port accesses) : Through port accesses :=
  fun access member ↦ .inr (.inr (fills.isData access member))

theorem fills_reading (port : MemoryPort) (spans : List MemorySpan) :
    ∀ pair ∈ reading port spans, pair.1.Fills port pair.2 := by
  intro pair member
  obtain ⟨span, -, rfl⟩ := List.mem_map.mp member
  exact ⟨fun _ ↦ register_of_mem_reads, length_reads port span⟩

theorem fills_writing (port : MemoryPort) (spans : List MemorySpan) (data : Bytes) :
    ∀ pair ∈ writing port spans data, pair.1.Fills port pair.2 := by
  induction spans generalizing data with
  | nil => exact List.forall_mem_nil _
  | cons span rest ih =>
    exact List.forall_mem_cons.mpr
      ⟨⟨fun _ ↦ register_of_mem_writes, length_writes port _ span⟩, ih _⟩

theorem map_fst_reading (port : MemoryPort) (spans : List MemorySpan) :
    (reading port spans).map Prod.fst = spans := by
  unfold reading
  rw [List.map_map]
  exact List.map_id spans

theorem map_fst_writing (port : MemoryPort) (spans : List MemorySpan) (data : Bytes) :
    (writing port spans data).map Prod.fst = spans := by
  induction spans generalizing data with
  | nil => rfl
  | cons span rest ih => exact congrArg (span :: ·) (ih _)

/-- Spans are accessed through the port. -/
theorem TakesAll.through {spans : List (MemorySpan × List RegisterAccess)}
    {trace : List RegisterAccess} (takesAll : TakesAll port spans trace)
    (fills : ∀ pair ∈ spans, pair.1.Fills port pair.2) : Through port trace := by
  induction takesAll with
  | nil => exact nofun
  | cons takes later ih =>
    obtain ⟨first, others⟩ := List.forall_mem_cons.mp fills
    refine Through.append ?_ (ih others)
    cases takes with
    | byte => exact (through_setUp _ _).append first.through
    | words resumed => exact (through_setUp _ _).append (through_resumed resumed first.through)

/-- So are parts of spans. -/
theorem TakesPart.through {spans : List (MemorySpan × List RegisterAccess)}
    {accesses : List RegisterAccess} (part : TakesPart port spans accesses)
    (fills : ∀ pair ∈ spans, pair.1.Fills port pair.2) : Through port accesses := by
  obtain ⟨trace, takes, before⟩ := part
  exact fun access member ↦ takes.through fills access (before.subset member)

/-- The bytes of several spans, from the words that were read. -/
def assemble : List MemorySpan → List UInt32 → Bytes
  | [], _ => []
  | span :: rest, found =>
    span.fromWords (found.take span.count) ++ assemble rest (found.drop span.count)

end MemorySpan

/-- Setting up consists of writes only. -/
private theorem plain_setUp (port : MemoryPort) (size : AccessSize) (address : UInt32)
    {access : RegisterAccess} (member : access ∈ Session.setUp port size address) :
    access.Plain := by
  rcases List.mem_cons.mp member with rfl | last
  · trivial
  · rw [List.mem_singleton.mp last]
    trivial

namespace TruthfulProbe

variable {model : TargetModel τ} {select : τ → UInt32} {view : σ → τ} {ready broken : σ → Prop}

/-- A span is set up and, if it is a single byte, goes through the data register at once. -/
private theorem runAll_setUp (probe : TruthfulProbe model view ready broken)
    (tracks : model.TracksSelect select) (config : TransferConfig) (port : MemoryPort)
    (size : AccessSize) (address : UInt32) (accesses : List RegisterAccess)
    (plain : ∀ access ∈ accesses, access.Plain) {link : Link σ}
    (free : Link.Free select view ready link) :
    (Session.runAll config (Session.setUp port size address ++ accesses)).Yields link
      (fun words next ↦ ∃ found, words = none :: none :: found ∧
        found.map Option.isSome = accesses.map (fun access ↦ access.wire.isRead) ∧
        Link.Did model select view ready link (Session.setUp port size address ++ accesses) words
          next)
      (fun _ next ↦ Link.Stopped model select view ready broken link
        (Session.setUp port size address ++ accesses) next) := by
  refine (probe.runAll tracks config ?_ free).imp ?_ (fun _ _ stopped ↦ stopped)
  · intro access member
    rcases List.mem_append.mp member with first | later
    · exact plain_setUp port size address first
    · exact plain access later
  · intro words next did
    have kinds := did.performed.isSome_words
    obtain ⟨first, rest, rfl, firstKind, others⟩ := List.map_eq_cons_iff.mp kinds
    obtain ⟨second, found, rfl, secondKind, data⟩ := List.map_eq_cons_iff.mp others
    obtain rfl := Option.isNone_iff_eq_none.mp (Option.isSome_eq_false_iff.mp firstKind)
    obtain rfl := Option.isNone_iff_eq_none.mp (Option.isSome_eq_false_iff.mp secondKind)
    exact ⟨found, rfl, data, did⟩

/-- A span is read by its accesses, or the link gives up. -/
theorem readSpan (probe : TruthfulProbe model view ready broken)
    (tracks : model.TracksSelect select) (config : TransferConfig) (port : MemoryPort)
    (span : MemorySpan) {link : Link σ} (free : Link.Free select view ready link) :
    (Session.readSpan config port span).Yields link
      (fun bytes next ↦ ∃ trace found, span.Takes port (span.reads port) trace ∧
        Link.Did model select view ready link trace found next ∧
        bytes = span.fromWords (found.filterMap id))
      (fun _ next ↦ ∃ trace, span.Takes port (span.reads port) trace ∧
        Link.Stopped model select view ready broken link trace next) := by
  cases span with
  | byte address =>
    unfold Session.readSpan
    rw [Action.yields_bind]
    refine (probe.runAll_setUp tracks config port .byte address _ ?_ free).imp ?_ ?_
    · intro access member
      rw [List.mem_singleton.mp member]
      trivial
    · rintro words next ⟨found, rfl, kinds, did⟩
      obtain ⟨last, rest, rfl, kind, others⟩ := List.map_eq_cons_iff.mp kinds
      obtain rfl := List.map_eq_nil_iff.mp others
      obtain ⟨word, rfl⟩ := Option.isSome_iff_exists.mp kind
      exact ⟨_, _, .byte, did, rfl⟩
    · intro error next stopped
      exact ⟨_, .byte, stopped⟩
  | words address count =>
    unfold Session.readSpan Link.readBlock
    rw [Action.yields_bind]
    have setUp := probe.runAll_setUp tracks config port .word address [] nofun free
    rw [List.append_nil] at setUp
    refine setUp.imp ?_ ?_
    · rintro words after ⟨found, rfl, kinds, did⟩
      rw [Action.yields_bind]
      refine (probe.block tracks config rfl ?_ (.read count) did.free).imp ?_ ?_
      · rintro rewrite member
        obtain rfl := Option.some.inj member
        rfl
      · rintro words next ⟨block, later, resumed, rfl, last⟩
        obtain rfl := List.map_eq_nil_iff.mp kinds
        exact ⟨_, _, .words resumed, did.append last, rfl⟩
      · rintro error next ⟨block, resumed, stopped⟩
        exact ⟨_, .words resumed, did.stopped stopped⟩
    · intro error next stopped
      exact ⟨_, .words (.refl _ _ _), stopped.append _⟩

/-- Bytes are written to a span by its accesses, or the link gives up. -/
theorem writeSpan (probe : TruthfulProbe model view ready broken)
    (tracks : model.TracksSelect select) (config : TransferConfig) (port : MemoryPort)
    (data : Bytes) (span : MemorySpan) {link : Link σ} (free : Link.Free select view ready link) :
    (Session.writeSpan config port data span).Yields link
      (fun _ next ↦ ∃ trace found, span.Takes port (span.writes port data) trace ∧
        Link.Did model select view ready link trace found next)
      (fun _ next ↦ ∃ trace, span.Takes port (span.writes port data) trace ∧
        Link.Stopped model select view ready broken link trace next) := by
  cases span with
  | byte address =>
    unfold Session.writeSpan
    rw [Action.yields_bind]
    refine (probe.runAll_setUp tracks config port .byte address _ ?_ free).imp ?_ ?_
    · intro access member
      rw [List.mem_singleton.mp member]
      trivial
    · rintro words next ⟨found, rfl, kinds, did⟩
      exact ⟨_, _, .byte, did⟩
    · intro error next stopped
      exact ⟨_, .byte, stopped⟩
  | words address count =>
    unfold Session.writeSpan Link.writeBlock
    rw [Action.yields_bind]
    have setUp := probe.runAll_setUp tracks config port .word address [] nofun free
    rw [List.append_nil] at setUp
    refine setUp.imp ?_ ?_
    · rintro words after ⟨found, rfl, kinds, did⟩
      rw [Action.yields_bind]
      refine (probe.block tracks config rfl ?_ (.write (data.words count)) did.free).imp ?_ ?_
      · rintro rewrite member
        obtain rfl := Option.some.inj member
        rfl
      · rintro words next ⟨block, later, resumed, rfl, last⟩
        exact ⟨_, _, .words resumed, did.append last⟩
      · rintro error next ⟨block, resumed, stopped⟩
        exact ⟨_, .words resumed, did.stopped stopped⟩
    · intro error next stopped
      exact ⟨_, .words (.refl _ _ _), stopped.append _⟩

omit [Transport σ] in
/-- Rewrites of the resume register read nothing. -/
private theorem countP_of_resumed {resume : Option BlockResume} {completed : Nat}
    {accesses trace : List RegisterAccess}
    (resumed : Link.Resumed resume completed accesses trace) :
    trace.countP (fun access ↦ access.wire.isRead) =
      accesses.countP fun access ↦ access.wire.isRead := by
  induction resumed with
  | nil completed => rfl
  | access later ih => rw [List.countP_cons, List.countP_cons, ih]
  | rearm later ih =>
    rw [List.countP_append, ih]
    cases resume with
    | none => exact Nat.zero_add _
    | some rewrite => exact Nat.zero_add _

omit [Transport σ] in
/-- A span reads as many words as it has. -/
private theorem countP_of_takes {port : MemoryPort} {span : MemorySpan}
    {trace : List RegisterAccess} (takes : span.Takes port (span.reads port) trace) :
    trace.countP (fun access ↦ access.wire.isRead) = span.count := by
  generalize reads : span.reads port = accesses at takes
  have all : accesses.countP (fun access ↦ access.wire.isRead) = span.count := by
    rw [← reads, MemorySpan.reads, List.countP_replicate]
    rfl
  rw [← all]
  cases takes with
  | byte => exact (List.countP_append).trans (Nat.zero_add _)
  | words resumed =>
    rw [List.countP_append, countP_of_resumed resumed]
    exact Nat.zero_add _

/-- Words that were read by a span come before those of the spans after it. -/
private theorem words_of_takes {port : MemoryPort} {span : MemorySpan}
    {trace : List RegisterAccess} (takes : span.Takes port (span.reads port) trace)
    {link next : Link σ} {found : List (Option UInt32)}
    (did : Link.Did model select view ready link trace found next) :
    (found.filterMap id).length = span.count := by
  have kinds := did.performed.isSome_words
  have same : trace.map (fun access ↦ access.wire.isRead) =
      (trace.map RegisterAccess.wire).map Transfer.isRead := by
    rw [List.map_map]
    rfl
  rw [same] at kinds
  rw [Frame.length_words kinds, List.countP_map]
  exact countP_of_takes takes

/-- Spans are read by their accesses, or the link gives up. -/
theorem readSpans (probe : TruthfulProbe model view ready broken)
    (tracks : model.TracksSelect select) (config : TransferConfig) (port : MemoryPort)
    (spans : List MemorySpan) {link : Link σ} (free : Link.Free select view ready link) :
    (Session.readSpans config port spans).Yields link
      (fun bytes next ↦ ∃ trace found,
        MemorySpan.TakesAll port (MemorySpan.reading port spans) trace ∧
        Link.Did model select view ready link trace found next ∧
        bytes = MemorySpan.assemble spans (found.filterMap id))
      (fun _ next ↦ ∃ trace, MemorySpan.TakesAll port (MemorySpan.reading port spans) trace ∧
        Link.Stopped model select view ready broken link trace next) := by
  induction spans generalizing link with
  | nil => exact ⟨[], [], .nil, free.did, rfl⟩
  | cons span rest ih =>
    unfold Session.readSpans
    rw [Action.yields_bind]
    refine (probe.readSpan tracks config port span free).imp ?_ ?_
    · rintro front after ⟨trace, found, takes, did, rfl⟩
      rw [Action.yields_bind]
      simp only [Action.yields_pure]
      refine (ih did.free).imp ?_ ?_
      · rintro bytes next ⟨others, later, takesAll, last, rfl⟩
        refine ⟨_, found ++ later, .cons takes takesAll, did.append last, ?_⟩
        have size := words_of_takes takes did
        rw [List.filterMap_append, MemorySpan.assemble, List.take_left' size, List.drop_left' size]
      · rintro error next ⟨others, takesAll, stopped⟩
        exact ⟨_, .cons takes takesAll, did.stopped stopped⟩
    · rintro error after ⟨trace, takes, stopped⟩
      obtain ⟨later, takesAll⟩ := MemorySpan.exists_takesAll port (MemorySpan.reading port rest)
      exact ⟨_, .cons takes takesAll, stopped.append later⟩

/-- Bytes are written to spans by their accesses, or the link gives up. -/
theorem writeSpans (probe : TruthfulProbe model view ready broken)
    (tracks : model.TracksSelect select) (config : TransferConfig) (port : MemoryPort)
    (spans : List MemorySpan) (data : Bytes) {link : Link σ}
    (free : Link.Free select view ready link) :
    (Session.writeSpans config port spans data).Yields link
      (fun _ next ↦ ∃ trace found,
        MemorySpan.TakesAll port (MemorySpan.writing port spans data) trace ∧
        Link.Did model select view ready link trace found next)
      (fun _ next ↦ ∃ trace, MemorySpan.TakesAll port (MemorySpan.writing port spans data) trace ∧
        Link.Stopped model select view ready broken link trace next) := by
  induction spans generalizing data link with
  | nil => exact ⟨[], [], .nil, free.did⟩
  | cons span rest ih =>
    unfold Session.writeSpans
    rw [Action.yields_bind]
    refine (probe.writeSpan tracks config port (data.take span.size) span free).imp ?_ ?_
    · rintro _ after ⟨trace, found, takes, did⟩
      refine (ih (data.drop span.size) did.free).imp ?_ ?_
      · rintro _ next ⟨others, later, takesAll, last⟩
        exact ⟨_, found ++ later, .cons takes takesAll, did.append last⟩
      · rintro error next ⟨others, takesAll, stopped⟩
        exact ⟨_, .cons takes takesAll, did.stopped stopped⟩
    · rintro error after ⟨trace, takes, stopped⟩
      obtain ⟨later, takesAll⟩ :=
        MemorySpan.exists_takesAll port (MemorySpan.writing port rest (data.drop span.size))
      exact ⟨_, .cons takes takesAll, stopped.append later⟩

end TruthfulProbe

end DebugProbe
