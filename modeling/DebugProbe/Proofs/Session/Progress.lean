import DebugProbe.Proofs.Link.Progress
import DebugProbe.Proofs.Session.Spans

/-!
# Memory accesses that go through

Where a target answers in time and packets have room, memory accesses do not fail.
-/

namespace DebugProbe

variable {σ τ : Type} [Transport σ]

namespace Session

omit [Transport σ] in
/-- Accesses whose batch fits are all queued. -/
private theorem queueAll_completes {packetSize : Nat} {accesses queued : List RegisterAccess}
    {link : Link σ} (active : link.state.isActive = true) (clear : link.state.stickyError = false)
    (built : link.batch.Built link.state.selectCache queued)
    (fits : Batch.fits (Batch.entriesFrom link.state.selectCache 0 (queued ++ accesses))
      packetSize = true) :
    (queueAll packetSize accesses).Yields link
      (fun _ next ↦ next = { link with batch := next.batch } ∧
        next.batch.Built link.state.selectCache (queued ++ accesses))
      (fun _ _ ↦ False) := by
  induction accesses generalizing queued link with
  | nil =>
    rw [List.append_nil]
    exact ⟨rfl, built⟩
  | cons access rest ih =>
    have shape : queued ++ access :: rest = queued ++ [access] ++ rest := by
      rw [List.append_assoc]
      rfl
    rw [shape] at fits ⊢
    unfold queueAll
    rw [Action.yields_bind, Action.yields_onError, Link.yields_queue,
      Link.yields_checkReady_of active clear]
    obtain ⟨batch, pushed⟩ := built.exists_push (fun _ ↦ rfl)
      (Batch.fits_sublist (Batch.entriesFrom_prefix _ _ _ _).sublist fits)
    rw [pushed]
    exact @ih (queued ++ [access]) { link with batch } active clear
      (built.push (fun _ ↦ rfl) pushed) fits

end Session

namespace TruthfulProbe

variable {model : TargetModel τ} {select : τ → UInt32} {view : σ → τ} {ready broken : σ → Prop}
  {waits : Port × UInt8 → τ → Nat}

/-- Up to three accesses to one bank go through as one batch. -/
theorem runAll_completes (probe : TruthfulProbe model view ready broken)
    (tracks : model.TracksSelect select) {config : TransferConfig}
    (patient : model.Patient (Link.waitLimit config) waits) {accesses : List RegisterAccess}
    {accessPort bank : UInt8} (inBank : ∀ access ∈ accesses, access.InBank accessPort bank)
    (few : accesses.length ≤ 3) {link : Link σ} (free : Link.Free select view ready link)
    (isOpen : link.Open) :
    (Session.runAll config accesses).Yields link
      (fun words next ↦ Link.Did model select view ready link accesses words next)
      (fun _ _ ↦ False) := by
  have none : link.batch.Built link.state.selectCache [] := by
    rw [free.batch]
    exact Batch.built_empty _
  have fits : Batch.fits (Batch.entriesFrom link.state.selectCache 0 accesses)
      (Transport.packetSize link.transport) = true := by
    refine Batch.fits_of_length_le ?_ isOpen.room
    have := @Batch.length_entriesFrom_le accessPort bank link.state.selectCache 0 accesses inBank
    omega
  have plain : ∀ access ∈ accesses, access.Plain := by
    intro access member
    obtain ⟨address, register, -⟩ := inBank access member
    exact RegisterAccess.plain_of_access (by rw [register]; rfl)
  unfold Session.runAll
  rw [Action.yields_bind, Link.yields_checkNoneQueued_of free.batch, Action.yields_bind,
    Link.yields_onProbe]
  unfold Probe.packetSize
  simp only [Action.yields_bind, Action.yields_get, Action.yields_pure]
  refine (Session.queueAll_completes isOpen.active isOpen.clear none fits).imp ?_
    (fun _ _ never ↦ never)
  rintro _ next ⟨same, built⟩
  rw [same] at built ⊢
  refine (probe.flush_completes tracks patient { link with batch := next.batch } free.isReady
    { isOpen with } built plain free.agrees ?_).imp ?_ (fun _ _ never ↦ never)
  · rw [built.entries]
    exact fits
  · rintro responses last ⟨-, ok, -, did⟩
    rw [Session.results_of_ok ok, Action.yields_ofExcept]
    exact { did with }

private theorem inBank_setUp {port : MemoryPort} {size : AccessSize} {address : UInt32}
    {access : RegisterAccess} (member : access ∈ Session.setUp port size address) :
    access.InBank port.index 0 := by
  rcases List.mem_cons.mp member with rfl | last
  · exact ⟨0x00, rfl, by decide⟩
  · rw [List.mem_singleton.mp last]
    exact ⟨0x04, rfl, by decide⟩

/-- A byte goes through the data register once the port is set up for it. -/
private theorem byte_completes (probe : TruthfulProbe model view ready broken)
    (tracks : model.TracksSelect select) {config : TransferConfig}
    (patient : model.Patient (Link.waitLimit config) waits) {port : MemoryPort} (address : UInt32)
    {access : RegisterAccess} (isData : access.register = port.drw) {link : Link σ}
    (free : Link.Free select view ready link) (isOpen : link.Open) :
    (Session.runAll config (Session.setUp port .byte address ++ [access])).Yields link
      (fun words next ↦ Link.Did model select view ready link
        (Session.setUp port .byte address ++ [access]) words next)
      (fun _ _ ↦ False) := by
  have inBank : ∀ other ∈ Session.setUp port .byte address ++ [access],
      other.InBank port.index 0 := by
    intro other member
    rcases List.mem_append.mp member with first | last
    · exact inBank_setUp first
    · rw [List.mem_singleton.mp last]
      exact ⟨0x0C, isData, by decide⟩
  exact probe.runAll_completes tracks patient inBank (Nat.le_refl 3) free isOpen

/-- Words go through the data register once the port is set up for them. -/
private theorem words_complete (probe : TruthfulProbe model view ready broken)
    (tracks : model.TracksSelect select) {config : TransferConfig}
    (patient : model.Patient (Link.waitLimit config) waits) (port : MemoryPort) (address : UInt32)
    (data : BlockData) {link : Link σ} (free : Link.Free select view ready link)
    (isOpen : link.Open) :
    (Session.runAll config (Session.setUp port .word address)).Yields link
      (fun _ next ↦ (Link.block config port.drw data (some ⟨port.tar, address⟩)).Yields next
        (fun _ _ ↦ True) (fun _ _ ↦ False))
      (fun _ _ ↦ False) := by
  refine (probe.runAll_completes tracks patient (fun _ member ↦ inBank_setUp member)
    (Nat.le_succ 2) free isOpen).imp ?_ (fun _ _ never ↦ never)
  intro words next did
  refine probe.block_completes tracks patient rfl ?_ data did.free (did.isOpen isOpen)
  intro rewrite member
  obtain rfl := Option.some.inj member
  have apart : (0x04 &&& 0x0C : UInt8) ≠ 0x0C &&& 0x0C := by decide
  exact ⟨rfl, apart⟩

/-- A span is read. -/
private theorem readSpan_completes (probe : TruthfulProbe model view ready broken)
    (tracks : model.TracksSelect select) {config : TransferConfig}
    (patient : model.Patient (Link.waitLimit config) waits) (port : MemoryPort)
    (span : MemorySpan) {link : Link σ} (free : Link.Free select view ready link)
    (isOpen : link.Open) :
    (Session.readSpan config port span).Yields link (fun _ _ ↦ True) (fun _ _ ↦ False) := by
  cases span with
  | byte address =>
    unfold Session.readSpan
    rw [Action.yields_bind]
    refine (probe.byte_completes tracks patient address rfl free isOpen).imp ?_
      (fun _ _ never ↦ never)
    intro words next did
    have kinds : words.map Option.isSome = [false, false, true] := did.performed.isSome_words
    have last : words.getLast?.map Option.isSome = some true := by
      rw [← List.getLast?_map, kinds]
      rfl
    obtain ⟨value, found, kind⟩ := Option.map_eq_some_iff.mp last
    obtain ⟨word, rfl⟩ := Option.isSome_iff_exists.mp kind
    rw [found]
    trivial
  | words address count =>
    unfold Session.readSpan Link.readBlock
    rw [Action.yields_bind]
    refine (probe.words_complete tracks patient port address (.read count) free isOpen).imp ?_
      (fun _ _ never ↦ never)
    intro _ next goes
    rw [Action.yields_bind]
    exact goes.imp (fun _ _ _ ↦ trivial) (fun _ _ never ↦ never)

/-- A span is written. -/
private theorem writeSpan_completes (probe : TruthfulProbe model view ready broken)
    (tracks : model.TracksSelect select) {config : TransferConfig}
    (patient : model.Patient (Link.waitLimit config) waits) (port : MemoryPort) (data : Bytes)
    (span : MemorySpan) {link : Link σ} (free : Link.Free select view ready link)
    (isOpen : link.Open) :
    (Session.writeSpan config port data span).Yields link (fun _ _ ↦ True) (fun _ _ ↦ False) := by
  cases span with
  | byte address =>
    unfold Session.writeSpan
    rw [Action.yields_bind]
    exact (probe.byte_completes tracks patient address rfl free isOpen).imp (fun _ _ _ ↦ trivial)
      (fun _ _ never ↦ never)
  | words address count =>
    unfold Session.writeSpan Link.writeBlock
    rw [Action.yields_bind]
    refine (probe.words_complete tracks patient port address (.write (data.words count)) free
      isOpen).imp ?_ (fun _ _ never ↦ never)
    intro _ next goes
    rw [Action.yields_bind]
    exact goes

/-- Spans are read. -/
theorem readSpans_completes (probe : TruthfulProbe model view ready broken)
    (tracks : model.TracksSelect select) {config : TransferConfig}
    (patient : model.Patient (Link.waitLimit config) waits) (port : MemoryPort)
    (spans : List MemorySpan) {link : Link σ} (free : Link.Free select view ready link)
    (isOpen : link.Open) :
    (Session.readSpans config port spans).Yields link (fun _ _ ↦ True) (fun _ _ ↦ False) := by
  induction spans generalizing link with
  | nil => trivial
  | cons span rest ih =>
    unfold Session.readSpans
    rw [Action.yields_bind]
    refine ((probe.readSpan tracks config port span free).and
      (probe.readSpan_completes tracks patient port span free isOpen)).imp ?_
        (fun _ _ both ↦ both.2)
    rintro front after ⟨⟨trace, found, -, did, -⟩, -⟩
    rw [Action.yields_bind]
    exact (ih did.free (did.isOpen isOpen)).imp (fun _ _ _ ↦ trivial) (fun _ _ never ↦ never)

/-- Spans are written. -/
theorem writeSpans_completes (probe : TruthfulProbe model view ready broken)
    (tracks : model.TracksSelect select) {config : TransferConfig}
    (patient : model.Patient (Link.waitLimit config) waits) (port : MemoryPort)
    (spans : List MemorySpan) (data : Bytes) {link : Link σ}
    (free : Link.Free select view ready link) (isOpen : link.Open) :
    (Session.writeSpans config port spans data).Yields link (fun _ _ ↦ True)
      (fun _ _ ↦ False) := by
  induction spans generalizing data link with
  | nil => trivial
  | cons span rest ih =>
    unfold Session.writeSpans
    rw [Action.yields_bind]
    refine ((probe.writeSpan tracks config port (data.take span.size) span free).and
      (probe.writeSpan_completes tracks patient port (data.take span.size) span free isOpen)).imp
        ?_ (fun _ _ both ↦ both.2)
    rintro _ after ⟨⟨trace, found, -, did⟩, -⟩
    exact ih (data.drop span.size) did.free (did.isOpen isOpen)

end TruthfulProbe

end DebugProbe
