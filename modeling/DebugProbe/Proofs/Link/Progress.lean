import DebugProbe.Proofs.Link.Patience

/-!
# Accesses that go through

Where a target answers in time and packets have room, register accesses do not fail.
-/

namespace DebugProbe

variable {σ τ : Type} [Transport σ]

/-- Accesses can go out over the link, and packets have room for four of them. -/
structure Link.Open (link : Link σ) : Prop where
  active : link.state.isActive = true
  clear : link.state.stickyError = false
  room : 23 ≤ Transport.packetSize link.transport

namespace Link

variable {model : TargetModel τ} {select : τ → UInt32} {view : σ → τ} {ready broken : σ → Prop}

/-- A link stays open while it performs accesses. -/
theorem Did.isOpen {link next : Link σ} {accesses : List RegisterAccess}
    {words : List (Option UInt32)} (did : Did model select view ready link accesses words next)
    (isOpen : link.Open) : next.Open := by
  constructor
  · rw [did.state]
    exact isOpen.active
  · rw [did.state]
    exact isOpen.clear
  · rw [did.packetSize]
    exact isOpen.room

/-- What is due in a frame is due in the batch. -/
private theorem head_drop_of_nextFrame {entry : BatchEntry} {rest : List BatchEntry}
    {waits count : Nat} {transfer : Transfer}
    (due : (((nextFrame entry rest waits).map (·.transfer)).map Transfer.onWire)[count]? =
      some transfer) :
    ∃ later, ((entry :: rest).drop count).head? = some later ∧ later.wire = transfer := by
  rw [List.map_map, List.getElem?_map] at due
  obtain ⟨later, found, rfl⟩ := Option.map_eq_some_iff.mp due
  refine ⟨later, ?_, rfl⟩
  rw [List.head?_drop]
  unfold nextFrame at found
  split at found
  · match count with
    | 0 => exact found
    | count + 1 => nomatch found
  · exact found

end Link

namespace TruthfulProbe

variable {model : TargetModel τ} {select : τ → UInt32} {view : σ → τ} {ready broken : σ → Prop}
  {limit : Nat} {waits : Port × UInt8 → τ → Nat}

/-- A frame that is not answered as a whole stops at an access that had to wait, once more than the
first one of the frame did before. -/
private theorem waits_of_frame (patient : model.Patient limit waits) {link : Link σ}
    {entry : BatchEntry} {rest : List BatchEntry} {repeated : Nat} {data : List (Option UInt32)}
    {status : UInt8} {next : σ} (borne : repeated ≤ waits entry.wire.place (view link.transport))
    (answered : Probe.Answered model view ready
      ((Link.nextFrame entry rest repeated).map (·.transfer)) link.transport data status next)
    (less : data.length < (Link.nextFrame entry rest repeated).length) :
    (TransferStatus.ofByte status).IsWait ∧ repeated + 1 < limit ∧
      ∀ later ∈ ((entry :: rest).drop data.length).head?,
        repeated + 1 ≤ waits later.wire.place (view next) := by
  obtain ⟨transfer, due, wait, few, some, more⟩ := patient.answers answered.2.2
    (by rw [List.length_map, List.length_map]; exact less)
  obtain ⟨later, head, rfl⟩ := Link.head_drop_of_nextFrame due
  have counted : repeated + 1 ≤ waits later.wire.place (view next) := by
    by_cases first : data = []
    · have same : entry = later := by
        rw [first] at head
        exact Option.some.inj head
      subst same
      exact Nat.lt_of_le_of_lt borne (more first)
    · -- Only a frame of one access is sent again, and of that nothing else completes.
      have fresh : repeated = 0 := by
        have := List.length_pos_iff.mpr first
        unfold Link.nextFrame at less
        split at less
        · rw [List.length_singleton] at less
          omega
        · omega
      omega
  refine ⟨wait, by omega, fun other member ↦ ?_⟩
  rw [head] at member
  obtain rfl := Option.some.inj member
  exact counted

private theorem ok_completed_append {frame : List BatchEntry} {data : List (Option UInt32)}
    {more : List AccessResponse} (others : ∀ response ∈ more, response.status = .ok) :
    ∀ response ∈ Batch.completed frame data ++ more, response.status = .ok := by
  intro response member
  rcases List.mem_append.mp member with first | later
  · exact Batch.status_completed first
  · exact others response later

/-- All entries complete, and each access is answered OK. -/
theorem sendEntries_completes (probe : TruthfulProbe model view ready broken)
    (patient : model.Patient limit waits) (entries : List BatchEntry) (repeated : Nat)
    {link : Link σ} (isReady : ready link.transport)
    (fits : Batch.fits entries (Transport.packetSize link.transport) = true)
    (borne : ∀ entry ∈ entries.head?, repeated ≤ waits entry.wire.place (view link.transport)) :
    (Link.sendEntries limit entries repeated).Yields link
      (fun responses _ ↦ ∀ response ∈ responses, response.status = .ok) (fun _ _ ↦ False) := by
  induction entries, repeated using @Link.sendEntries_induction limit generalizing link with
  | nil repeated =>
    rw [Link.sendEntries]
    intro response member
    exact absurd member List.not_mem_nil
  | cons entry rest repeated progressing again =>
    have left (count : Nat) {next : σ}
        (size : Transport.packetSize next = Transport.packetSize link.transport) :
        Batch.fits ((entry :: rest).drop count) (Transport.packetSize next) = true := by
      rw [size]
      exact Batch.fits_sublist (List.drop_sublist _ _) fits
    apply probe.sendEntries_cons isReady rfl
    case breaking =>
      rintro error next - ⟨unfit, -, -⟩
      refine patient.unbroken (unfit ?_)
      exact (Batch.fits_iff _).mp
        (Batch.fits_sublist (Link.nextFrame_sublist entry rest repeated) fits)
    case completed =>
      intro data status next answered all
      have frame := Link.length_nextFrame_pos entry rest repeated
      refine (progressing _ ?_ answered.1 (left _ answered.2.1) fun _ _ ↦ Nat.zero_le _).imp
        (fun _ _ others ↦ ok_completed_append others) (fun _ _ never ↦ never)
      rw [List.length_drop, List.length_cons, all]
      omega
    case waiting =>
      intro data status next answered less _ more
      obtain ⟨-, -, counted⟩ := waits_of_frame patient (borne entry rfl) answered less
      refine (again _ ?_ more answered.1 (left _ answered.2.1) counted).imp
        (fun _ _ others ↦ ok_completed_append others) (fun _ _ never ↦ never)
      rw [List.length_drop]
      omega
    case ended =>
      intro data status next failure sticky pending answered less ends
      obtain ⟨wait, more, -⟩ := waits_of_frame patient (borne entry rfl) answered less
      rcases ends with ⟨-, exhausted, -⟩ | ⟨notWait, -⟩
      · omega
      · exact absurd wait notWait

/-- A flush of a batch that fits goes through. -/
private theorem flush_ok (probe : TruthfulProbe model view ready broken) {config : TransferConfig}
    (patient : model.Patient (Link.waitLimit config) waits) {link : Link σ}
    (isReady : ready link.transport) (isOpen : link.Open)
    (fits : Batch.fits link.batch.entries (Transport.packetSize link.transport) = true) :
    (Link.flush config).Yields link
      (fun responses _ ↦ ∀ response ∈ responses, response.status = .ok) (fun _ _ ↦ False) := by
  unfold Link.flush
  simp only [Action.yields_bind, Action.yields_get, Action.yields_update]
  have active : link.discard.state.isActive = true := isOpen.active
  have clear : link.discard.state.stickyError = false := isOpen.clear
  rw [Link.yields_checkReady_of active clear, Action.yields_ite]
  constructor
  · intro _ response member
    exact absurd member List.not_mem_nil
  · intro _
    rw [Action.yields_onError]
    exact probe.sendEntries_completes patient _ 0 isReady fits fun _ _ ↦ Nat.zero_le _

/-- A flush performs all accesses of a batch that fits. -/
theorem flush_completes (probe : TruthfulProbe model view ready broken)
    (tracks : model.TracksSelect select) {config : TransferConfig}
    (patient : model.Patient (Link.waitLimit config) waits) (link : Link σ)
    (isReady : ready link.transport) (isOpen : link.Open) {accesses : List RegisterAccess}
    (built : link.batch.Built link.state.selectCache accesses)
    (plain : ∀ access ∈ accesses, access.Plain)
    (agrees : Select.Agrees link.state.selectCache (select (view link.transport)))
    (fits : Batch.fits link.batch.entries (Transport.packetSize link.transport) = true) :
    (Link.flush config).Yields link
      (fun responses next ↦ responses.length = accesses.length ∧
        (∀ response ∈ responses, response.status = .ok) ∧
        next.state.selectCache = selectAfter link.state.selectCache link.batch.entries ∧
        Link.Did model select view ready link accesses (responses.map AccessResponse.value) next)
      (fun _ _ ↦ False) := by
  refine ((probe.flush_performs tracks config link isReady built plain agrees).and
    (probe.flush_ok patient isReady isOpen fits)).imp ?_ (fun _ _ both ↦ both.2)
  rintro responses next ⟨⟨count, ⟨-, known, did⟩ | ⟨⟨response, member, notOk⟩, -⟩⟩, ok⟩
  · exact ⟨count, ok, known, did⟩
  · exact absurd (ok response member) notOk

private theorem fits_single (held : Option Select) (access : RegisterAccess) {packetSize : Nat}
    (room : 23 ≤ packetSize) :
    Batch.fits (Batch.entriesFrom held 0 [access]) packetSize = true := by
  refine Batch.fits_of_length_le ?_ room
  rw [Batch.entriesFrom, Batch.entriesFrom, List.append_nil]
  rcases Batch.entriesFor_cases held access 0 with ⟨-, shape⟩ | ⟨select, -, shape⟩
  · rw [shape, List.length_singleton]
    omega
  · rw [shape, List.length_cons, List.length_singleton]
    omega

/-- A single access goes through. -/
theorem run_completes (probe : TruthfulProbe model view ready broken)
    (tracks : model.TracksSelect select) {config : TransferConfig}
    (patient : model.Patient (Link.waitLimit config) waits) {link : Link σ}
    (free : Link.Free select view ready link) (isOpen : link.Open) {access : RegisterAccess}
    (plain : access.Plain) :
    (Link.run config access).Yields link
      (fun word next ↦ Link.Did model select view ready link [access] [word] next)
      (fun _ _ ↦ False) := by
  unfold Link.run
  rw [Action.yields_bind, Link.yields_checkNoneQueued_of free.batch, Action.yields_bind,
    Link.yields_onProbe]
  unfold Probe.packetSize
  simp only [Action.yields_bind, Action.yields_get, Action.yields_pure]
  rw [Link.yields_queue, Link.yields_checkReady_of isOpen.active isOpen.clear]
  have none : link.batch.Built link.state.selectCache [] := by
    rw [free.batch]
    exact Batch.built_empty _
  have fits := fits_single link.state.selectCache access isOpen.room
  obtain ⟨batch, pushed⟩ := none.exists_push (fun _ ↦ rfl) fits
  have built := none.push (fun _ ↦ rfl) pushed
  have plain : ∀ other ∈ [access], other.Plain := by
    intro other member
    rw [List.mem_singleton.mp member]
    exact plain
  rw [pushed]
  refine (probe.flush_completes tracks patient { link with batch } free.isReady { isOpen with }
    built plain free.agrees ?_).imp ?_ (fun _ _ never ↦ never)
  · rw [built.entries]
    exact fits
  · rintro responses next ⟨count, ok, -, did⟩
    obtain ⟨response, rfl⟩ := List.length_eq_one_iff.mp count
    dsimp only
    rw [AccessResponse.result_of_ok (ok response List.mem_cons_self), Action.yields_ofExcept]
    exact { did with }

/-- A register is made reachable. -/
theorem select_completes (probe : TruthfulProbe model view ready broken)
    (tracks : model.TracksSelect select) {config : TransferConfig}
    (patient : model.Patient (Link.waitLimit config) waits) {link : Link σ}
    (free : Link.Free select view ready link) (isOpen : link.Open) (register : RegisterAddress) :
    (Link.select config register).Yields link
      (fun _ next ↦ Link.Did model select view ready link [] [] next ∧
        register.ReachedUnder (select (view next.transport)))
      (fun _ _ ↦ False) := by
  have goes : (Link.select config register).Yields link (fun _ _ ↦ True) (fun _ _ ↦ False) := by
    unfold Link.select
    rw [Action.yields_bind, Action.yields_get]
    cases register.requiredSelect link.state.selectCache with
    | none => trivial
    | some needed =>
      have plain : (RegisterAccess.write (.debug DebugPort.selectAddress) needed.word).Plain :=
        fun _ ↦ rfl
      rw [Action.yields_bind]
      exact (probe.run_completes tracks patient free isOpen plain).imp (fun _ _ _ ↦ trivial)
        (fun _ _ never ↦ never)
  exact ((probe.select_reaches tracks config free register).and goes).imp (fun _ _ both ↦ both.1)
    (fun _ _ both ↦ both.2)

/-- The resume register is rewritten, which does not count as an answer to the access that waits. -/
private theorem resumeBlock_completes (probe : TruthfulProbe model view ready broken)
    (tracks : model.TracksSelect select) {config : TransferConfig}
    (patient : model.Patient (Link.waitLimit config) waits) {link : Link σ}
    (free : Link.Free select view ready link) (isOpen : link.Open) {register : RegisterAddress}
    (isAccess : register.port = .access)
    (reached : register.ReachedUnder (select (view link.transport)))
    {resume : Option BlockResume} (resumable : ∀ rewrite ∈ resume,
      rewrite.register.port = .access ∧ rewrite.register.wireAddress ≠ register.wireAddress)
    (completed : Nat) :
    (Link.resumeBlock config register resume completed).Yields link
      (fun _ next ↦ (∃ accesses words, Link.Did model select view ready link accesses words next) ∧
        register.ReachedUnder (select (view next.transport)) ∧
        waits (register.port, register.wireAddress) (view link.transport) ≤
          waits (register.port, register.wireAddress) (view next.transport))
      (fun _ _ ↦ False) := by
  cases resume with
  | none => exact ⟨⟨[], [], free.did⟩, reached, Nat.le_refl _⟩
  | some rewrite =>
    obtain ⟨side, other⟩ := resumable rewrite rfl
    generalize shape : RegisterAccess.write rewrite.register
      (rewrite.base + 4 * UInt32.ofNat completed) = access
    have same : access.register = rewrite.register := by
      rw [← shape]
      rfl
    unfold Link.resumeBlock
    rw [Action.yields_bind, shape]
    refine (probe.run_completes tracks patient free isOpen
      (RegisterAccess.plain_of_access (by rw [same]; exact side))).imp ?_ (fun _ _ never ↦ never)
    intro word after did
    have elsewhere : ∀ other ∈ [access],
        other.wire.place ≠ (register.port, register.wireAddress) := by
      intro another member
      rw [List.mem_singleton.mp member, RegisterAccess.place_wire, same]
      exact fun places ↦ other (Prod.mk.inj places).2
    have rewritten := patient.performed (register.port, register.wireAddress) isAccess elsewhere
      did.performed
    refine (probe.select_completes tracks patient did.free (did.isOpen isOpen) register).imp ?_
      (fun _ _ never ↦ never)
    rintro _ next ⟨nothing, reached⟩
    have selected := patient.performed (register.port, register.wireAddress) isAccess
      (List.forall_mem_nil _) nothing.performed
    exact ⟨⟨_, _, did.append nothing⟩, reached, Nat.le_trans rewritten selected⟩

/-- A frame of a block that is not answered as a whole stops at an access that had to wait, once
more than the first one of the frame did before. -/
private theorem waits_of_block (patient : model.Patient limit waits) {link : Link σ}
    {register : RegisterAddress} {data : BlockData} {maxWords repeated : Nat}
    {found : List (Option UInt32)} {status : UInt8} {next : σ}
    (borne : repeated ≤ waits (register.port, register.wireAddress) (view link.transport))
    (answered : Probe.Answered model view ready
      (((data.accesses register).take (Link.blockFrame data maxWords)).map RegisterAccess.transfer)
      link.transport found status next)
    (less : found.length < Link.blockFrame data maxWords) :
    (TransferStatus.ofByte status).IsWait ∧ Link.blockWaits repeated found.length < limit ∧
      Link.blockWaits repeated found.length ≤
        waits (register.port, register.wireAddress) (view next) := by
  have frame : Link.blockFrame data maxWords ≤ data.size := Nat.min_le_left _ _
  have asked : found.length <
      ((((data.accesses register).take (Link.blockFrame data maxWords)).map
        RegisterAccess.transfer).map Transfer.onWire).length := by
    rw [List.length_map, List.length_map, List.length_take, BlockData.length_accesses]
    omega
  obtain ⟨transfer, due, wait, few, some, more⟩ := patient.answers answered.2.2 asked
  rw [List.map_map, List.getElem?_map] at due
  obtain ⟨access, here, rfl⟩ := Option.map_eq_some_iff.mp due
  have place : Transfer.place ((Transfer.onWire ∘ RegisterAccess.transfer) access) =
      (register.port, register.wireAddress) := by
    apply access.place_wire.trans
    rw [BlockData.register_of_mem_accesses (List.mem_of_mem_take (List.mem_of_getElem? here))]
  rw [place] at few some more
  have counted : Link.blockWaits repeated found.length ≤
      waits (register.port, register.wireAddress) (view next) := by
    unfold Link.blockWaits
    split
    · exact some
    · next none =>
      have := more (List.eq_nil_of_length_eq_zero (Nat.eq_zero_of_not_pos none))
      omega
  exact ⟨wait, Nat.lt_of_le_of_lt counted few, counted⟩

/-- A block goes through, and each access is answered OK. -/
private theorem sendBlock_completes (probe : TruthfulProbe model view ready broken)
    (tracks : model.TracksSelect select) {config : TransferConfig}
    (patient : model.Patient (Link.waitLimit config) waits) {register : RegisterAddress}
    (isAccess : register.port = .access) {resume : Option BlockResume}
    (resumable : ∀ rewrite ∈ resume,
      rewrite.register.port = .access ∧ rewrite.register.wireAddress ≠ register.wireAddress)
    {maxWords : Nat} (few : maxWords ≤ 65535) (data : BlockData) (completed repeated : Nat)
    {link : Link σ} (free : Link.Free select view ready link) (isOpen : link.Open)
    (room : 5 + 4 * max maxWords 1 ≤ Transport.packetSize link.transport)
    (reached : register.ReachedUnder (select (view link.transport)))
    (borne : repeated ≤ waits (register.port, register.wireAddress) (view link.transport)) :
    (Link.sendBlock config register resume maxWords data completed repeated).Yields link
      (fun _ _ ↦ True) (fun _ _ ↦ False) := by
  induction data, completed, repeated using @Link.sendBlock_induction (Link.waitLimit config)
    generalizing link with
  | nil data completed repeated empty =>
    rw [Link.sendBlock, if_pos empty]
    trivial
  | frame data completed repeated left progressing again =>
    apply probe.sendBlock_step free.isReady few left rfl rfl
    case breaking =>
      rintro error next - ⟨unfit, -, -⟩
      refine patient.unbroken (unfit (Nat.le_trans ?_ room))
      have : Link.blockFrame data maxWords ≤ max maxWords 1 := Nat.min_le_right _ _
      omega
    case whole =>
      intro found status next answered all
      obtain ⟨did, reached⟩ := did_of_frame tracks isAccess free reached answered
      have some : 0 < found.length := by
        rw [all]
        unfold Link.blockFrame
        omega
      refine (progressing _ some did.free (did.isOpen isOpen) ?_ reached (Nat.zero_le _)).imp
        (fun _ _ _ ↦ trivial) (fun _ _ never ↦ never)
      rw [did.packetSize]
      exact room
    case waiting =>
      intro found status next answered less _ more
      obtain ⟨did, reached⟩ := did_of_frame tracks isAccess free reached answered
      obtain ⟨-, -, counted⟩ := waits_of_block patient borne answered less
      refine (probe.resumeBlock_completes tracks patient did.free (did.isOpen isOpen) isAccess
        reached resumable _).imp ?_ (fun _ _ never ↦ never)
      rintro _ after ⟨⟨_, _, rewritten⟩, reached, kept⟩
      refine (again _ more rewritten.free (rewritten.isOpen (did.isOpen isOpen)) ?_ reached
        (Nat.le_trans counted kept)).imp (fun _ _ _ ↦ trivial) (fun _ _ never ↦ never)
      rw [rewritten.packetSize, did.packetSize]
      exact room
    case ended =>
      intro found status next failure error sticky pending answered less ends
      obtain ⟨wait, more, -⟩ := waits_of_block patient borne answered less
      rcases ends with ⟨-, exhausted, -⟩ | ⟨notWait, -⟩
      · omega
      · exact absurd wait notWait

/-- A block transfer goes through. -/
theorem block_completes (probe : TruthfulProbe model view ready broken)
    (tracks : model.TracksSelect select) {config : TransferConfig}
    (patient : model.Patient (Link.waitLimit config) waits) {register : RegisterAddress}
    (isAccess : register.port = .access) {resume : Option BlockResume}
    (resumable : ∀ rewrite ∈ resume,
      rewrite.register.port = .access ∧ rewrite.register.wireAddress ≠ register.wireAddress)
    (data : BlockData) {link : Link σ} (free : Link.Free select view ready link)
    (isOpen : link.Open) :
    (Link.block config register data resume).Yields link (fun _ _ ↦ True) (fun _ _ ↦ False) := by
  unfold Link.block
  rw [Action.yields_bind, Link.yields_checkReady_of isOpen.active isOpen.clear,
    Action.yields_bind, Link.yields_checkNoneQueued_of free.batch, Action.yields_bind]
  refine (probe.select_completes tracks patient free isOpen register).imp ?_
    (fun _ _ never ↦ never)
  rintro _ next ⟨did, reached⟩
  rw [Action.yields_bind, Link.yields_onProbe]
  have room := (did.isOpen isOpen).room
  refine probe.sendBlock_completes tracks patient isAccess resumable (Nat.min_le_right _ _) data 0 0
    did.free (did.isOpen isOpen) ?_ reached (Nat.zero_le _)
  show 5 + 4 * max (min ((Transport.packetSize next.transport - 5) / 4) 65535) 1 ≤
    Transport.packetSize next.transport
  omega

end TruthfulProbe

end DebugProbe
