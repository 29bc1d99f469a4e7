import DebugProbe.Proofs.Link.Registers

/-!
# Block transfers

A block of accesses to one register goes out packet by packet. After a WAIT the resume register is
rewritten and the block goes on with the access that has to wait, so that the target performs the
accesses of the block in order and each once, with rewrites of the resume register between them.
-/

namespace DebugProbe

variable {σ τ : Type} [Transport σ]

namespace BlockData

/-- The accesses that a block makes to its register. -/
def accesses (register : RegisterAddress) : BlockData → List RegisterAccess
  | read count => List.replicate count (.read register)
  | write words => words.map (.write register)

@[simp] theorem length_accesses (register : RegisterAddress) (data : BlockData) :
    (data.accesses register).length = data.size := by
  cases data with
  | read count => exact List.length_replicate
  | write words => exact List.length_map _

/-- The accesses that are left. -/
theorem accesses_rest (register : RegisterAddress) (data : BlockData) (count : Nat) :
    (data.rest count).accesses register = (data.accesses register).drop count := by
  cases data with
  | read total => exact List.drop_replicate.symm
  | write words => exact List.map_drop

/-- A block is about one register. -/
theorem register_of_mem_accesses {register : RegisterAddress} {data : BlockData}
    {access : RegisterAccess} (member : access ∈ data.accesses register) :
    access.register = register := by
  cases data with
  | read count => rw [List.eq_of_mem_replicate member]; rfl
  | write words =>
    obtain ⟨word, -, rfl⟩ := List.mem_map.mp member
    rfl

/-- A frame carries no more words than are left. -/
theorem length_words_front {data : BlockData} {count : Nat} (le : count ≤ data.size) :
    (data.front count).words.length ≤ count := by
  cases data with
  | read total => exact Nat.zero_le count
  | write words => exact List.length_take_le count words

/-- A frame of a block announces as many words as it asks for. -/
theorem announced_front (data : BlockData) {count : Nat} (le : count ≤ data.size)
    (few : count ≤ 65535) : (data.front count).count.toNat = count := by
  cases data with
  | read total => exact UInt16.toNat_ofNat_of_lt' (Nat.lt_succ_of_le few)
  | write words =>
    have length : (words.take count).length = count := List.length_take_of_le le
    show (UInt16.ofNat (min (words.take count).length 65535)).toNat = count
    rw [length, Nat.min_eq_left few]
    exact UInt16.toNat_ofNat_of_lt' (Nat.lt_succ_of_le few)

/-- A frame asks for the first accesses of the block. -/
theorem transfers_front (register : RegisterAddress) (dapIndex : UInt8) {data : BlockData}
    {count : Nat} (le : count ≤ data.size) (few : count ≤ 65535) :
    BlockRequest.transfers ⟨dapIndex, register.port, register.wireAddress, data.front count⟩ =
      ((data.accesses register).take count).map RegisterAccess.transfer := by
  cases data with
  | read total =>
    have size : (UInt16.ofNat count).toNat = count := by
      rw [UInt16.toNat_ofNat']
      exact Nat.mod_eq_of_lt (Nat.lt_succ_of_le few)
    have fewer : min count total = count := Nat.min_eq_left le
    show List.replicate (UInt16.ofNat count).toNat _ = ((List.replicate total _).take count).map _
    rw [size, List.take_replicate, fewer, List.map_replicate]
    rfl
  | write words =>
    show (words.take count).map _ = ((words.map _).take count).map _
    rw [← List.map_take, List.map_map]
    rfl

end BlockData

namespace TargetModel

variable {model : TargetModel τ} {select : τ → UInt32}

/-- Exactly the reads that are performed give words. -/
theorem Performed.isSome_words {accesses : List RegisterAccess} {state last : τ}
    {data : List (Option UInt32)} (performed : model.Performed select accesses state data last) :
    data.map Option.isSome = accesses.map fun access ↦ access.wire.isRead := by
  induction performed with
  | nil state => rfl
  | refused step later ih => exact ih
  | selected step later ih => exact ih
  | access reached kind step later ih => rw [List.map_cons, List.map_cons, kind, ih]

/-- The host's own writes of SELECT count for nothing. -/
theorem Performed.of_selecting {value : Select} {rest : List RegisterAccess} {state last : τ}
    {data : List (Option UInt32)}
    (performed : model.Performed select
      (.write (.debug DebugPort.selectAddress) value.word :: rest) state data last) :
    model.Performed select rest state data.tail last := by
  generalize shape : RegisterAccess.write (.debug DebugPort.selectAddress) value.word :: rest =
    accesses at performed
  induction performed with
  | nil state => nomatch shape
  | refused step later ih => exact .refused step (ih shape)
  | selected step later ih => exact .selected step (ih shape)
  | @access access rest state next last word data reached kind step later ih =>
    obtain ⟨rfl, rfl⟩ := List.cons.inj shape
    have address :
        (DebugPort.selectAddress &&& 0x0C) &&& 0x0C = DebugPort.selectAddress &&& 0x0C := by
      decide
    have same : (RegisterAccess.write (.debug DebugPort.selectAddress) value.word).wire =
        (BatchEntry.selecting value).wire :=
      congrArg (Transfer.mk .debug · (some value.word)) address
    rw [same] at step
    exact .selected step later

/-- Accesses to reachable access port registers are performed as they are carried out, and leave
SELECT alone. -/
theorem Carries.performed (tracks : model.TracksSelect select) {accesses : List RegisterAccess}
    {state last : τ} {data : List (Option UInt32)}
    (isAccess : ∀ access ∈ accesses, access.register.port = .access)
    (reached : ∀ access ∈ accesses, access.register.ReachedUnder (select state))
    (carries : model.Carries (accesses.map RegisterAccess.wire) state data last) :
    model.Performed select accesses state data last ∧ select last = select state := by
  generalize shape : accesses.map RegisterAccess.wire = transfers at carries
  induction carries generalizing accesses with
  | nil state =>
    rw [List.map_eq_nil_iff] at shape
    rw [shape]
    exact ⟨.nil state, rfl⟩
  | refused step later ih =>
    have same := tracks.refuses step
    obtain ⟨performed, unchanged⟩ := ih isAccess
      (fun access member ↦ by rw [same]; exact reached access member) shape
    exact ⟨.refused step performed, unchanged.trans same⟩
  | completed kind step later ih =>
    obtain ⟨access, rest, rfl, rfl, rfl⟩ := List.map_eq_cons_iff.mp shape
    have same := (tracks.completes step).trans
      (Transfer.selectAfter_of_access (isAccess access List.mem_cons_self) _)
    obtain ⟨performed, unchanged⟩ := ih
      (fun other member ↦ isAccess other (List.mem_cons_of_mem access member))
      (fun other member ↦ by rw [same]; exact reached other (List.mem_cons_of_mem access member))
      rfl
    exact ⟨.access (reached access List.mem_cons_self) kind step performed, unchanged.trans same⟩

end TargetModel

namespace Link

/-- The write that makes a block resume, if it has a resume register. -/
def rearming (resume : Option BlockResume) (completed : Nat) : List RegisterAccess :=
  match resume with
  | none => []
  | some resume => [.write resume.register (resume.base + 4 * UInt32.ofNat completed)]

/-- Accesses of a block with rewrites of the resume register between them; `completed` accesses were
made before. -/
inductive Resumed (resume : Option BlockResume) :
    (completed : Nat) → List RegisterAccess → List RegisterAccess → Prop
  | nil (completed : Nat) : Resumed resume completed [] []
  | access {completed : Nat} {access : RegisterAccess} {rest trace : List RegisterAccess}
      (later : Resumed resume (completed + 1) rest trace) :
      Resumed resume completed (access :: rest) (access :: trace)
  | rearm {completed : Nat} {accesses trace : List RegisterAccess}
      (later : Resumed resume completed accesses trace) :
      Resumed resume completed accesses (rearming resume completed ++ trace)

variable {resume : Option BlockResume}

/-- Some accesses of a block are made before the others. -/
theorem Resumed.prepend {completed count : Nat} {accesses trace : List RegisterAccess}
    (le : count ≤ accesses.length)
    (later : Resumed resume (completed + count) (accesses.drop count) trace) :
    Resumed resume completed accesses (accesses.take count ++ trace) := by
  induction count generalizing accesses completed with
  | zero => exact later
  | succ count ih =>
    cases accesses with
    | nil => nomatch le
    | cons access rest =>
      have shifted : completed + (count + 1) = completed + 1 + count := by omega
      rw [shifted] at later
      exact .access (ih (Nat.le_of_succ_le_succ le) later)

/-- A block may go through without a rewrite. -/
theorem Resumed.refl (resume : Option BlockResume) (completed : Nat)
    (accesses : List RegisterAccess) : Resumed resume completed accesses accesses := by
  have none : Resumed resume (completed + accesses.length) (accesses.drop accesses.length) [] := by
    rw [List.drop_length]
    exact .nil _
  have all := none.prepend (Nat.le_refl _)
  rw [List.take_length, List.append_nil] at all
  exact all

/-- The WAIT answers that the next access of a block got in a row. -/
def blockWaits (waits count : Nat) : Nat := if 0 < count then 1 else waits + 1

/-- Sending a block ends because a frame makes progress or leaves one WAIT less to be borne. -/
theorem sendBlock_induction {limit : Nat} {motive : BlockData → Nat → Nat → Prop}
    (nil : ∀ data completed waits, data.size = 0 → motive data completed waits)
    (frame : ∀ data completed waits, 0 < data.size →
      (∀ count, 0 < count → motive (data.rest count) (completed + count) 0) →
      (∀ count, blockWaits waits count < limit →
        motive (data.rest count) (completed + count) (blockWaits waits count)) →
      motive data completed waits)
    (data : BlockData) (completed waits : Nat) : motive data completed waits := by
  by_cases empty : data.size = 0
  · exact nil data completed waits empty
  · apply frame data completed waits (Nat.pos_of_ne_zero empty)
    · intro count progress
      exact sendBlock_induction nil frame (data.rest count) (completed + count) 0
    · intro count more
      exact sendBlock_induction nil frame (data.rest count) (completed + count)
        (blockWaits waits count)
termination_by (data.size, limit - waits)
decreasing_by
  · apply Prod.Lex.left
    rw [BlockData.size_rest]
    omega
  · by_cases progress : 0 < count
    · apply Prod.Lex.left
      rw [BlockData.size_rest]
      omega
    · have none : count = 0 := by omega
      subst none
      rw [BlockData.size_rest]
      apply Prod.Lex.right
      have again : blockWaits waits 0 = waits + 1 := rfl
      rw [again] at more ⊢
      omega

/-- The number of words in the next frame of a block. -/
def blockFrame (data : BlockData) (maxWords : Nat) : Nat := min data.size (max maxWords 1)

end Link

namespace TruthfulProbe

variable {model : TargetModel τ} {select : τ → UInt32} {view : σ → τ} {ready broken : σ → Prop}

/-- One frame of a block. It breaks, or completes as a whole, or stops at an access that has to be
made again, or stops for good. -/
theorem sendBlock_step (probe : TruthfulProbe model view ready broken) {link : Link σ}
    (isReady : ready link.transport) {config : TransferConfig} {register : RegisterAddress}
    {resume : Option BlockResume} {maxWords completed waits asked : Nat} {data : BlockData}
    (few : maxWords ≤ 65535) (left : 0 < data.size)
    (isFrame : asked = Link.blockFrame data maxWords)
    {transfers : List Transfer}
    (asks : transfers = ((data.accesses register).take asked).map RegisterAccess.transfer)
    {done : List UInt32 → Link σ → Prop} {failed : AccessError → Link σ → Prop}
    (breaking : ∀ error next, error.isBroken = true →
      Probe.Broken model view ready broken transfers
        (5 + 4 * asked ≤ Transport.packetSize link.transport) link.transport next →
      failed error ({ link with transport := next } : Link σ).forgetSelect)
    (whole : ∀ found status next,
      Probe.Answered model view ready transfers link.transport found status next →
      found.length = asked →
      (Link.sendBlock config register resume maxWords (data.rest found.length)
        (completed + found.length) 0).Yields { link with transport := next }
        (fun words ↦ done (found.filterMap id ++ words)) failed)
    (waiting : ∀ found status next,
      Probe.Answered model view ready transfers link.transport found status next →
      found.length < asked → (TransferStatus.ofByte status).IsWait →
      Link.blockWaits waits found.length < Link.waitLimit config →
      (Link.resumeBlock config register resume (completed + found.length)).Yields
        { link with transport := next }
        (fun _ after ↦ (Link.sendBlock config register resume maxWords (data.rest found.length)
          (completed + found.length) (Link.blockWaits waits found.length)).Yields after
          (fun words ↦ done (found.filterMap id ++ words)) failed) failed)
    (ended : ∀ found status next failure error sticky pending,
      Probe.Answered model view ready transfers link.transport found status next →
      found.length < asked →
      AccessStatus.EndsAfter failure (.ofByte status)
        (Link.waitLimit config ≤ Link.blockWaits waits found.length) →
      failed error (link.afterFailure next sticky pending)) :
    (Link.sendBlock config register resume maxWords data completed waits).Yields link done
      failed := by
  have le : asked ≤ data.size := by
    rw [isFrame]
    exact Nat.min_le_left _ _
  have small : asked ≤ 65535 := by
    rw [isFrame]
    exact Nat.le_trans (Nat.min_le_right _ _) (Nat.max_le.mpr ⟨few, by decide⟩)
  have words := data.length_words_front le
  have front := data.transfers_front register link.state.dapIndex le small
  rw [← asks] at front
  have count : transfers.length = asked := by
    rw [asks, List.length_map, List.length_take, BlockData.length_accesses, Nat.min_eq_left le]
  rw [Link.sendBlock, if_neg (Nat.ne_of_gt left)]
  unfold Link.blockFrame at isFrame
  simp only [← isFrame, Action.yields_bind, Action.yields_get, Action.yields_onError,
    Link.yields_command]
  refine (probe.transferBlock isReady _ (Nat.le_trans words small)).imp ?_ ?_
  · rintro reply next ⟨found, status, rfl, answered⟩
    rw [front] at answered
    have atMost := answered.2.2.length_le
    have allOrNot := answered.2.2.isOk_iff
    rw [List.length_map, count] at atMost allOrNot
    rw [Action.yields_ite]
    constructor
    · intro ok
      have all := allOrNot.mp ok
      rw [if_pos all, Action.yields_bind]
      simp only [Action.yields_pure]
      exact whole found status next answered all
    · intro notOk
      have less : found.length < asked :=
        Nat.lt_of_le_of_ne atMost fun all ↦ notOk (allOrNot.mpr all)
      rw [Action.yields_bind, Link.yields_noteFailure]
      rcases Link.classify_cases (.ofByte status) link.state with
        ⟨wait, classified⟩ | ⟨failure, sticky, pending, classified, notWait, kind⟩
      · rw [classified]
        dsimp only
        rw [Action.yields_ite]
        constructor
        · intro exhausted
          simp only [Action.yields_bind, Action.yields_update, Action.yields_throw]
          exact ended found status next .retryExhausted _ _ _ answered less
            (.inl ⟨wait, exhausted, rfl⟩)
        · intro notExhausted
          simp only [Action.yields_bind, Action.yields_pure]
          exact waiting found status next answered less wait (Nat.lt_of_not_le notExhausted)
      · rw [classified]
        simp only [Action.yields_bind, Action.yields_update, Action.yields_throw]
        exact ended found status next failure _ sticky pending answered less (.inr ⟨notWait, kind⟩)
  · rintro error next ⟨isBroken, unfit, place, part⟩
    rw [front] at part
    refine breaking _ _ isBroken ⟨fun fits ↦ unfit ⟨?_, ?_⟩, place, part⟩
    · dsimp only
      omega
    · rw [front, count]
      unfold Probe.bufferSize
      omega

/-- What a link performed besides its own writes of SELECT. -/
private theorem did_of_selecting {link next : Link σ} {value : Select} {word : Option UInt32}
    (did : Link.Did model select view ready link
      [.write (.debug DebugPort.selectAddress) value.word] [word] next) :
    Link.Did model select view ready link [] [] next :=
  { did with performed := did.performed.of_selecting }

omit [Transport σ] in
private theorem stopped_of_selecting {link next : Link σ} {value : Select}
    (stopped : Link.Stopped model select view ready broken link
      [.write (.debug DebugPort.selectAddress) value.word] next) :
    Link.Stopped model select view ready broken link [] next := by
  refine { stopped with performed := ?_ }
  obtain ⟨part, words, before, performed⟩ := stopped.performed
  rcases List.prefix_cons_iff.mp before with rfl | ⟨rest, rfl, more⟩
  · exact ⟨[], words, List.nil_prefix, performed⟩
  · obtain rfl := List.prefix_nil.mp more
    exact ⟨[], _, List.nil_prefix, performed.of_selecting⟩

/-- A register is made reachable, or the link gives up. -/
theorem select_reaches (probe : TruthfulProbe model view ready broken)
    (tracks : model.TracksSelect select) (config : TransferConfig) {link : Link σ}
    (free : Link.Free select view ready link) (register : RegisterAddress) :
    (Link.select config register).Yields link
      (fun _ next ↦ Link.Did model select view ready link [] [] next ∧
        register.ReachedUnder (select (view next.transport)))
      (fun _ next ↦ Link.Stopped model select view ready broken link [] next) := by
  unfold Link.select
  rw [Action.yields_bind, Action.yields_get]
  cases needs : register.requiredSelect link.state.selectCache with
  | none =>
    exact ⟨free.did, RegisterAddress.reachedUnder_of_none needs free.agrees⟩
  | some needed =>
    rw [Action.yields_bind]
    have plain : (RegisterAccess.write (.debug DebugPort.selectAddress) needed.word).Plain :=
      fun _ ↦ rfl
    refine (probe.run tracks config free plain).imp ?_ ?_
    · rintro word next ⟨did, known⟩
      have cached : next.state.selectCache = some needed := known
      refine ⟨did_of_selecting did, ?_⟩
      rw [← did.agrees needed cached]
      exact RegisterAddress.reachedUnder_of_some needs
    · intro error next stopped
      exact stopped_of_selecting stopped

/-- The resume register is rewritten and the register of the block made reachable again, or the
link gives up. -/
theorem resumeBlock (probe : TruthfulProbe model view ready broken)
    (tracks : model.TracksSelect select) (config : TransferConfig) {link : Link σ}
    (free : Link.Free select view ready link) {register : RegisterAddress}
    (reached : register.ReachedUnder (select (view link.transport)))
    {resume : Option BlockResume} (isAccess : ∀ rewrite ∈ resume, rewrite.register.port = .access)
    (completed : Nat) :
    (Link.resumeBlock config register resume completed).Yields link
      (fun _ next ↦ (∃ words, words.filterMap id = [] ∧
          Link.Did model select view ready link (Link.rearming resume completed) words next) ∧
        register.ReachedUnder (select (view next.transport)))
      (fun _ next ↦ Link.Stopped model select view ready broken link
        (Link.rearming resume completed) next) := by
  cases resume with
  | none =>
    exact ⟨⟨[], rfl, free.did⟩, reached⟩
  | some rewrite =>
    unfold Link.resumeBlock
    rw [Action.yields_bind]
    have plain : (RegisterAccess.write rewrite.register
        (rewrite.base + 4 * UInt32.ofNat completed)).Plain :=
      RegisterAccess.plain_of_access (isAccess rewrite rfl)
    refine (probe.run tracks config free plain).imp ?_ ?_
    · rintro word after ⟨did, -⟩
      have silent : [word].filterMap id = [] := by
        have kind : [word.isSome] = [false] := did.performed.isSome_words
        cases word with
        | none => rfl
        | some value => nomatch kind
      refine (probe.select_reaches tracks config did.free register).imp ?_ ?_
      · rintro _ next ⟨nothing, reached⟩
        exact ⟨⟨[word], silent, did.append nothing⟩, reached⟩
      · intro error next stopped
        exact did.stopped stopped
    · intro error next stopped
      exact stopped

/-- What was carried out of a frame of a block is performed. -/
private theorem performed_of_frame (tracks : model.TracksSelect select)
    {register : RegisterAddress} (isAccess : register.port = .access) {data : BlockData}
    {asked : Nat} {state last : τ} {found : List (Option UInt32)}
    (reached : register.ReachedUnder (select state))
    (le : found.length ≤
      ((((data.accesses register).take asked).map RegisterAccess.transfer).map
        Transfer.onWire).length)
    (carries : model.Carries
      (((((data.accesses register).take asked).map RegisterAccess.transfer).map
        Transfer.onWire).take found.length) state found last) :
    model.Performed select ((data.accesses register).take found.length) state found last ∧
      select last = select state := by
  rw [List.length_map, List.length_map, List.length_take] at le
  rw [← List.map_take, ← List.map_take, List.take_take, Nat.min_eq_left (by omega),
    List.map_map] at carries
  apply carries.performed tracks
  · intro access member
    rw [BlockData.register_of_mem_accesses (List.mem_of_mem_take member)]
    exact isAccess
  · intro access member
    rw [BlockData.register_of_mem_accesses (List.mem_of_mem_take member)]
    exact reached

/-- A frame of a block that is answered performs the accesses that completed. -/
theorem did_of_frame (tracks : model.TracksSelect select) {register : RegisterAddress}
    (isAccess : register.port = .access) {data : BlockData} {asked : Nat} {link : Link σ}
    (free : Link.Free select view ready link)
    (reached : register.ReachedUnder (select (view link.transport)))
    {found : List (Option UInt32)} {status : UInt8} {next : σ}
    (answered : Probe.Answered model view ready
      (((data.accesses register).take asked).map RegisterAccess.transfer) link.transport found
      status next) :
    Link.Did model select view ready link ((data.accesses register).take found.length) found
        { link with transport := next } ∧
      register.ReachedUnder (select (view next)) := by
  obtain ⟨isReady, size, answers⟩ := answered
  obtain ⟨performed, same⟩ :=
    performed_of_frame tracks isAccess reached answers.length_le answers.carries
  refine ⟨⟨isReady, size, performed, ?_, free.batch, rfl⟩, ?_⟩
  · rw [same]
    exact free.agrees
  · rw [same]
    exact reached

/-- A block is performed with rewrites of the resume register between its accesses, or the link
gives up. -/
theorem sendBlock (probe : TruthfulProbe model view ready broken)
    (tracks : model.TracksSelect select) (config : TransferConfig) {register : RegisterAddress}
    (isAccess : register.port = .access) {resume : Option BlockResume}
    (resumable : ∀ rewrite ∈ resume, rewrite.register.port = .access) {maxWords : Nat}
    (few : maxWords ≤ 65535) (data : BlockData) (completed waits : Nat) {link : Link σ}
    (free : Link.Free select view ready link)
    (reached : register.ReachedUnder (select (view link.transport))) :
    (Link.sendBlock config register resume maxWords data completed waits).Yields link
      (fun words next ↦ ∃ trace found,
        Link.Resumed resume completed (data.accesses register) trace ∧
          words = found.filterMap id ∧ Link.Did model select view ready link trace found next)
      (fun _ next ↦ ∃ trace, Link.Resumed resume completed (data.accesses register) trace ∧
        Link.Stopped model select view ready broken link trace next) := by
  induction data, completed, waits using @Link.sendBlock_induction (Link.waitLimit config)
    generalizing link with
  | nil data completed waits empty =>
    rw [Link.sendBlock, if_pos empty]
    have none : data.accesses register = [] :=
      List.eq_nil_of_length_eq_zero ((data.length_accesses register).trans empty)
    rw [none]
    exact ⟨[], [], .nil completed, rfl, free.did⟩
  | frame data completed waits left progressing again =>
    have short {found : List (Option UInt32)} (le : found.length ≤ Link.blockFrame data maxWords) :
        found.length ≤ (data.accesses register).length := by
      rw [BlockData.length_accesses]
      exact Nat.le_trans le (Nat.min_le_left _ _)
    apply probe.sendBlock_step free.isReady few left rfl rfl
    case breaking =>
      rintro error next isBroken ⟨-, place, part⟩
      obtain ⟨found, le, carries⟩ := part.carries
      obtain ⟨performed, -⟩ := performed_of_frame tracks isAccess reached le carries
      exact ⟨_, .refl _ _ _, place, ⟨_, _, List.take_prefix _ _, performed⟩, .none _, free.batch,
        rfl, .inl rfl⟩
    case whole =>
      intro found status next answered all
      obtain ⟨did, reached⟩ := did_of_frame tracks isAccess free reached answered
      have frame : 0 < found.length := by
        rw [all]
        unfold Link.blockFrame
        omega
      refine (progressing _ frame did.free reached).imp ?_ ?_
      · rintro words last ⟨trace, more, resumed, rfl, later⟩
        rw [BlockData.accesses_rest] at resumed
        exact ⟨_, found ++ more, resumed.prepend (short (Nat.le_of_eq all)),
          List.filterMap_append.symm, did.append later⟩
      · rintro error last ⟨trace, resumed, stopped⟩
        rw [BlockData.accesses_rest] at resumed
        exact ⟨_, resumed.prepend (short (Nat.le_of_eq all)), did.stopped stopped⟩
    case waiting =>
      intro found status next answered less wait more
      obtain ⟨did, reached⟩ := did_of_frame tracks isAccess free reached answered
      have le := short (Nat.le_of_lt less)
      refine (probe.resumeBlock tracks config did.free reached resumable _).imp ?_ ?_
      · rintro _ after ⟨⟨nothing, silent, rewritten⟩, reached⟩
        refine (again _ more rewritten.free reached).imp ?_ ?_
        · rintro words last ⟨trace, later, resumed, rfl, finished⟩
          rw [BlockData.accesses_rest] at resumed
          refine ⟨_, found ++ (nothing ++ later), resumed.rearm.prepend le, ?_,
            did.append (rewritten.append finished)⟩
          rw [List.filterMap_append, List.filterMap_append, silent, List.nil_append]
        · rintro error last ⟨trace, resumed, stopped⟩
          rw [BlockData.accesses_rest] at resumed
          exact ⟨_, resumed.rearm.prepend le, did.stopped (rewritten.stopped stopped)⟩
      · intro error last stopped
        have resumed : Link.Resumed resume (completed + found.length)
          ((data.accesses register).drop found.length) _ := (Link.Resumed.refl _ _ _).rearm
        exact ⟨_, resumed.prepend le, did.stopped (stopped.append _)⟩
    case ended =>
      intro found status next failure error sticky pending answered less ends
      obtain ⟨did, -⟩ := did_of_frame tracks isAccess free reached answered
      exact ⟨_, .refl _ _ _, .inl did.isReady, ⟨_, _, List.take_prefix _ _, did.performed⟩, .none _,
        free.batch, rfl, .inl rfl⟩

/-- A block transfer is refused, or performed with rewrites of the resume register between its
accesses, or given up. -/
theorem block (probe : TruthfulProbe model view ready broken)
    (tracks : model.TracksSelect select) (config : TransferConfig) {register : RegisterAddress}
    (isAccess : register.port = .access) {resume : Option BlockResume}
    (resumable : ∀ rewrite ∈ resume, rewrite.register.port = .access) (data : BlockData)
    {link : Link σ} (free : Link.Free select view ready link) :
    (Link.block config register data resume).Yields link
      (fun words next ↦ ∃ trace found,
        Link.Resumed resume 0 (data.accesses register) trace ∧ words = found.filterMap id ∧
          Link.Did model select view ready link trace found next)
      (fun _ next ↦ ∃ trace, Link.Resumed resume 0 (data.accesses register) trace ∧
        Link.Stopped model select view ready broken link trace next) := by
  have refused : ∃ trace, Link.Resumed resume 0 (data.accesses register) trace ∧
      Link.Stopped model select view ready broken link trace link :=
    ⟨_, .refl _ _ _, free.stopped _⟩
  unfold Link.block
  rw [Action.yields_bind, Link.yields_checkReady]
  refine ⟨fun _ ↦ refused, fun _ _ ↦ refused, fun _ _ ↦ ?_⟩
  rw [Action.yields_bind, Link.yields_checkNoneQueued]
  refine ⟨fun _ ↦ refused, fun _ ↦ ?_⟩
  rw [Action.yields_bind]
  refine (probe.select_reaches tracks config free register).imp ?_ ?_
  · rintro _ after ⟨did, reached⟩
    rw [Action.yields_bind, Link.yields_onProbe]
    exact (probe.sendBlock tracks config isAccess resumable (Nat.min_le_right _ _) data 0 0
      did.free reached).imp
        (fun _ _ ⟨trace, found, resumed, words, later⟩ ↦
          ⟨trace, found, resumed, words, did.append later⟩)
        (fun _ _ ⟨trace, resumed, stopped⟩ ↦ ⟨trace, resumed, did.stopped stopped⟩)
  · intro error after stopped
    exact ⟨_, .refl _ _ _, stopped.append _⟩

end TruthfulProbe

end DebugProbe
