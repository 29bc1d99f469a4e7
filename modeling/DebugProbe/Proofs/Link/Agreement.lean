import DebugProbe.Proofs.Session.Batches
import DebugProbe.Proofs.Target.Obliging

/-!
# Batches against single accesses

While a batch is put together SELECT is what the accesses before will make of it; an access that is
run at once goes by what SELECT is known to hold. In front of a target that answers everything OK
both come to the same: the same entries go out, the same values come back, and the same is known of
SELECT in the end.
-/

namespace DebugProbe

open TargetModel (obliging words)

namespace Batch

/-- The position of an access makes no difference to what is transferred for it. -/
private theorem transfers_entriesFor (held : Option Select) (access : RegisterAccess)
    (index other : Nat) :
    (entriesFor held access index).map BatchEntry.transfer =
      (entriesFor held access other).map BatchEntry.transfer := by
  unfold entriesFor
  cases access.register.requiredSelect held with
  | none => rfl
  | some select => rfl

/-- Nor does it to the value of SELECT after it. -/
private theorem selectAfter_entriesFor (held : Option Select) (access : RegisterAccess)
    (index other : Nat) :
    selectAfter held (entriesFor held access index) =
      selectAfter held (entriesFor held access other) := by
  unfold entriesFor
  cases access.register.requiredSelect held with
  | none => rfl
  | some select => rfl

private theorem wires_of_transfers {first second : List BatchEntry}
    (same : first.map BatchEntry.transfer = second.map BatchEntry.transfer) :
    first.map BatchEntry.wire = second.map BatchEntry.wire := by
  have mapped := congrArg (List.map Transfer.onWire) same
  rw [List.map_map, List.map_map] at mapped
  exact mapped

/-- Whether entries fit depends on what is transferred only. -/
private theorem fits_of_transfers {first second : List BatchEntry} {packetSize : Nat}
    (same : first.map BatchEntry.transfer = second.map BatchEntry.transfer)
    (fits : Batch.fits first packetSize = true) : Batch.fits second packetSize = true := by
  rw [fits_iff 0] at fits ⊢
  unfold TransferRequest.ofEntries at fits ⊢
  rw [← same]
  exact fits

/-- What fits into a packet fits into a larger one. -/
theorem fits_mono {entries : List BatchEntry} {small large : Nat} (le : small ≤ large)
    (fits : Batch.fits entries small = true) : Batch.fits entries large = true := by
  rw [fits_iff 0] at fits ⊢
  exact ⟨fits.1, Nat.le_trans fits.2.1 le, Nat.le_trans fits.2.2 le⟩

/-- An access that is carried out has one response, whatever was put in front of it. -/
private theorem exists_completed (answer : List Transfer → UInt32) (log : List Transfer)
    (held : Option Select) (access : RegisterAccess) :
    ∃ word, ∀ index, completed (entriesFor held access index)
      (words answer log ((entriesFor held access index).map BatchEntry.wire)) =
        [⟨index, .ok, word⟩] := by
  unfold entriesFor
  cases access.register.requiredSelect held with
  | none =>
    exact ⟨if access.wire.isRead then some (answer (log ++ [access.wire])) else none,
      fun index ↦ rfl⟩
  | some select =>
    exact ⟨if access.wire.isRead then
        some (answer ((log ++ [(BatchEntry.selecting select).wire]) ++ [access.wire])) else none,
      fun index ↦ rfl⟩

/-- The responses to a batch that is carried out are those to its parts. -/
private theorem completed_words_append (answer : List Transfer → UInt32) (log : List Transfer)
    (first second : List BatchEntry) :
    completed (first ++ second) (words answer log ((first ++ second).map BatchEntry.wire)) =
      completed first (words answer log (first.map BatchEntry.wire)) ++
        completed second (words answer (log ++ first.map BatchEntry.wire)
          (second.map BatchEntry.wire)) := by
  have length : (words answer log (first.map BatchEntry.wire)).length = first.length := by
    rw [TargetModel.length_words, List.length_map]
  rw [List.map_append, TargetModel.words_append, completed_append, ← completed_take, length,
    List.take_left, List.drop_left]
  rw [length, List.length_append]
  exact Nat.le_add_right _ _

end Batch

variable {σ : Type} [Transport σ]

namespace Link

/-- Runs accesses one after the other. -/
def runEach (config : TransferConfig) :
    List RegisterAccess → Action (Link σ) AccessError (List (Option UInt32))
  | [] => pure []
  | access :: rest => do
    let value ← run config access
    return value :: (← runEach config rest)

/-- Entries were carried out, as the record of the target tells, and SELECT is known accordingly. -/
structure Carried (view : σ → List Transfer) (ready : σ → Prop) (link : Link σ)
    (entries : List BatchEntry) (next : Link σ) : Prop where
  isReady : ready next.transport
  packetSize : Transport.packetSize next.transport = Transport.packetSize link.transport
  log : view next.transport = view link.transport ++ entries.map BatchEntry.wire
  batch : next.batch = {}
  state : next.state =
    { link.state with selectCache := selectAfter link.state.selectCache entries }

variable {view : σ → List Transfer} {ready broken : σ → Prop} {link middle last : Link σ}
  {first second : List BatchEntry}

/-- Entries may be carried out in two goes. -/
private theorem Carried.append (early : link.Carried view ready first middle)
    (late : middle.Carried view ready second last) :
    link.Carried view ready (first ++ second) last where
  isReady := late.isReady
  packetSize := late.packetSize.trans early.packetSize
  log := by rw [late.log, early.log, List.map_append, List.append_assoc]
  batch := late.batch
  state := by rw [late.state, early.state, selectAfter_append]

end Link

namespace TruthfulProbe

variable {answer : List Transfer → UInt32} {view : σ → List Transfer} {ready broken : σ → Prop}
  {link : Link σ}

section Obliging

variable (probe : TruthfulProbe (obliging answer) view ready broken) (config : TransferConfig)
include probe

/-- Entries that fit are all carried out by one frame. -/
private theorem sendEntries_obliging (isReady : ready link.transport) (limit : Nat)
    {entries : List BatchEntry}
    (fits : entries ≠ [] → Batch.fits entries (Transport.packetSize link.transport) = true) :
    (Link.sendEntries limit entries 0).Yields link
      (fun responses next ↦
        responses = Batch.completed entries
          (words answer (view link.transport) (entries.map BatchEntry.wire)) ∧
        next = link.afterEntries next.transport entries ∧ ready next.transport ∧
        Transport.packetSize next.transport = Transport.packetSize link.transport ∧
        view next.transport = view link.transport ++ entries.map BatchEntry.wire)
      (fun _ _ ↦ False) := by
  cases entries with
  | nil =>
    rw [Link.sendEntries, Action.yields_pure, List.map_nil, List.append_nil]
    exact ⟨rfl, rfl, isReady, rfl, rfl⟩
  | cons entry rest =>
    have wires : (((entry :: rest).map BatchEntry.transfer).map Transfer.onWire) =
        (entry :: rest).map BatchEntry.wire := List.map_map
    -- No frame stops before its end.
    have whole {data : List (Option UInt32)} {status : UInt8} {next : σ}
        (answered : Probe.Answered (obliging answer) view ready
          ((entry :: rest).map BatchEntry.transfer) link.transport data status next) :
        data = words answer (view link.transport) ((entry :: rest).map BatchEntry.wire) ∧
          data.length = (entry :: rest).length ∧
          view next = view link.transport ++ (entry :: rest).map BatchEntry.wire := by
      obtain ⟨-, -, answers⟩ := answered
      rw [wires] at answers
      obtain ⟨isWords, log⟩ := TargetModel.answers_obliging answers
      refine ⟨isWords, ?_, log⟩
      rw [isWords, TargetModel.length_words, List.length_map]
    have isFrame : entry :: rest = Link.nextFrame entry rest 0 := rfl
    apply probe.sendEntries_cons isReady isFrame
    · rintro error next isBroken ⟨unfit, -⟩
      exact unfit ((Batch.fits_iff _).mp (fits (List.cons_ne_nil _ _)))
    · intro data status next answered all
      obtain ⟨isWords, -, log⟩ := whole answered
      rw [all, List.drop_length, List.take_length, Link.sendEntries, Action.yields_pure,
        List.append_nil]
      exact ⟨by rw [isWords], rfl, answered.1, answered.2.1, log⟩
    · intro data status next answered less
      exact absurd (whole answered).2.1 (Nat.ne_of_lt less)
    · intro data status next failure sticky pending answered less
      exact absurd (whole answered).2.1 (Nat.ne_of_lt less)

/-- A flush carries the whole batch out. -/
private theorem flush_obliging (isReady : ready link.transport)
    (active : link.state.isActive = true) (clear : link.state.stickyError = false)
    (fits : link.batch.entries ≠ [] →
      Batch.fits link.batch.entries (Transport.packetSize link.transport) = true) :
    (Link.flush config).Yields link
      (fun responses next ↦
        responses = Batch.completed link.batch.entries
          (words answer (view link.transport) (link.batch.entries.map BatchEntry.wire)) ∧
        link.Carried view ready link.batch.entries next)
      (fun _ _ ↦ False) := by
  unfold Link.flush
  simp only [Action.yields_bind, Action.yields_get, Action.yields_update]
  have isOpen : link.discard.state.isActive = true := active
  rw [Link.yields_checkReady_of isOpen clear, Action.yields_ite]
  constructor
  · intro empty
    rw [List.isEmpty_iff.mp empty]
    exact ⟨rfl, isReady, rfl, (List.append_nil _).symm, rfl, rfl⟩
  · intro some
    rw [Action.yields_onError]
    have sending : ready link.discard.transport := isReady
    refine (probe.sendEntries_obliging sending _ fits).imp ?_ (fun _ _ never ↦ never)
    rintro responses next ⟨responded, after, isReady, size, log⟩
    rw [after]
    exact ⟨responded, isReady, size, log, rfl, rfl⟩

/-- A single access is carried out, behind a write of SELECT where one is needed. -/
private theorem run_obliging (isReady : ready link.transport) (none : link.batch = {})
    (active : link.state.isActive = true) (clear : link.state.stickyError = false)
    {access : RegisterAccess}
    (fits : Batch.fits (Batch.entriesFor link.state.selectCache access 0)
      (Transport.packetSize link.transport) = true) :
    (Link.run config access).Yields link
      (fun word next ↦
        (∀ index, Batch.completed (Batch.entriesFor link.state.selectCache access index)
          (words answer (view link.transport)
            ((Batch.entriesFor link.state.selectCache access index).map BatchEntry.wire)) =
          [⟨index, .ok, word⟩]) ∧
        link.Carried view ready (Batch.entriesFor link.state.selectCache access 0) next)
      (fun _ _ ↦ False) := by
  unfold Link.run
  simp only [Action.yields_bind]
  rw [Link.yields_checkNoneQueued_of none, Link.yields_onProbe]
  unfold Probe.packetSize
  simp only [Action.yields_bind, Action.yields_get, Action.yields_pure]
  rw [Link.yields_queue, Link.yields_checkReady_of active clear]
  have built : link.batch.Built link.state.selectCache [] := by
    rw [none]
    exact Batch.built_empty _
  have room : Batch.fits (Batch.entriesFrom link.state.selectCache 0 ([] ++ [access]))
      (Transport.packetSize link.transport) = true := by
    rw [List.nil_append, Batch.entriesFrom, Batch.entriesFrom, List.append_nil]
    exact fits
  obtain ⟨batch, pushed⟩ := built.exists_push (fun _ ↦ rfl) room
  have entries : batch.entries = Batch.entriesFor link.state.selectCache access 0 := by
    have grown := (built.push (fun _ ↦ rfl) pushed).entries
    rw [List.nil_append, Batch.entriesFrom, Batch.entriesFrom, List.append_nil] at grown
    exact grown
  rw [pushed]
  dsimp only
  have waiting : ({ link with batch } : Link σ).batch.entries ≠ [] →
      Batch.fits ({ link with batch } : Link σ).batch.entries
        (Transport.packetSize ({ link with batch } : Link σ).transport) = true := by
    intro _
    show Batch.fits batch.entries _ = true
    rw [entries]
    exact fits
  have sending : ready ({ link with batch } : Link σ).transport := isReady
  refine (probe.flush_obliging config sending active clear waiting).imp ?_
    (fun _ _ never ↦ never)
  rintro responses next ⟨responded, carried⟩
  dsimp only at responded carried
  rw [entries] at responded carried
  obtain ⟨word, single⟩ := Batch.exists_completed answer (view link.transport)
    link.state.selectCache access
  rw [responded, single 0]
  dsimp only
  rw [AccessResponse.result_of_ok rfl, Action.yields_ofExcept]
  exact ⟨single, { carried with }⟩

/-- Accesses that are run one after the other are carried out as a batch of them would be. -/
private theorem runEach_obliging (isReady : ready link.transport) (none : link.batch = {})
    (active : link.state.isActive = true) (clear : link.state.stickyError = false)
    {accesses : List RegisterAccess} (index : Nat)
    (fits : accesses ≠ [] →
      Batch.fits (Batch.entriesFrom link.state.selectCache index accesses)
        (Transport.packetSize link.transport) = true) :
    (Link.runEach config accesses).Yields link
      (fun values next ↦
        (Batch.completed (Batch.entriesFrom link.state.selectCache index accesses)
          (words answer (view link.transport)
            ((Batch.entriesFrom link.state.selectCache index accesses).map
              BatchEntry.wire))).map AccessResponse.value = values ∧
        link.Carried view ready (Batch.entriesFrom link.state.selectCache index accesses) next)
      (fun _ _ ↦ False) := by
  induction accesses generalizing link index with
  | nil =>
    refine ⟨rfl, isReady, rfl, (List.append_nil _).symm, none, rfl⟩
  | cons access rest ih =>
    have room := fits (List.cons_ne_nil _ _)
    rw [Batch.entriesFrom] at room
    have here : Batch.fits (Batch.entriesFor link.state.selectCache access 0)
        (Transport.packetSize link.transport) = true :=
      Batch.fits_of_transfers (Batch.transfers_entriesFor _ access index 0)
        (Batch.fits_sublist (List.sublist_append_left _ _) room)
    unfold Link.runEach
    rw [Action.yields_bind]
    refine (probe.run_obliging config isReady none active clear here).imp ?_
      (fun _ _ never ↦ never)
    rintro word middle ⟨single, carried⟩
    have early : link.Carried view ready (Batch.entriesFor link.state.selectCache access index)
        middle := by
      have wires := Batch.wires_of_transfers
        (Batch.transfers_entriesFor link.state.selectCache access 0 index)
      refine { carried with log := ?_, state := ?_ }
      · rw [← wires]
        exact carried.log
      · rw [Batch.selectAfter_entriesFor _ access index 0]
        exact carried.state
    have known : middle.state.selectCache = selectAfter link.state.selectCache
        (Batch.entriesFor link.state.selectCache access index) := by rw [early.state]
    rw [Action.yields_bind]
    simp only [Action.yields_pure]
    refine (ih early.isReady early.batch ?_ ?_ (index + 1) fun _ ↦ ?_).imp ?_
      (fun _ _ never ↦ never)
    · rw [early.state]
      exact active
    · rw [early.state]
      exact clear
    · rw [known, early.packetSize]
      exact Batch.fits_sublist (List.sublist_append_right _ _) room
    · rintro values last ⟨responded, late⟩
      rw [known] at responded late
      rw [Batch.entriesFrom]
      refine ⟨?_, early.append late⟩
      rw [Batch.completed_words_append, single index, ← early.log, List.map_append, responded]
      rfl

end Obliging

end TruthfulProbe

namespace Session

omit [Transport σ] in
/-- Accesses that were all queued fit together into a packet. -/
private theorem fits_of_queueAll {packetSize : Nat} {accesses : List RegisterAccess}
    {link : Link σ}
    (fits : link.batch.entries ≠ [] → Batch.fits link.batch.entries packetSize = true) :
    (queueAll packetSize accesses).Yields link
      (fun _ next ↦
        next.batch.entries ≠ [] → Batch.fits next.batch.entries packetSize = true)
      (fun _ _ ↦ True) := by
  induction accesses generalizing link with
  | nil => exact fits
  | cons access rest ih =>
    unfold queueAll
    rw [Action.yields_bind, Action.yields_onError, Link.yields_queue, Link.yields_checkReady]
    refine ⟨fun _ ↦ trivial, fun _ _ ↦ trivial, fun _ _ ↦ ?_⟩
    split
    · next batch pushed => exact ih fun _ ↦ (Batch.push?_eq_some_iff.mp pushed).1
    · trivial

end Session

/-- Over a target that answers everything OK, accesses that are queued and flushed as one batch put
the same entries on the wire as the same accesses that are run one after the other, whatever is
believed of SELECT at first; both give the same values in the same order and know the same of the
target in the end, the value of SELECT included. -/
theorem Link.batch_agrees {answer : List Transfer → UInt32} {view : σ → List Transfer}
    {ready broken : σ → Prop} (probe : TruthfulProbe (obliging answer) view ready broken)
    (config : TransferConfig) {packetSize : Nat} {accesses : List RegisterAccess}
    {link queued : Link σ} (isReady : ready link.transport) (none : link.batch = {})
    (active : link.state.isActive = true) (clear : link.state.stickyError = false)
    (room : packetSize ≤ Transport.packetSize link.transport)
    (queues : (Session.queueAll packetSize accesses).outcome link = (.ok (), queued)) :
    ∃ responses values flushed ran,
      (flush config).outcome queued = (.ok responses, flushed) ∧
      (runEach config accesses).outcome link = (.ok values, ran) ∧
      view flushed.transport = view link.transport ++ queued.batch.entries.map BatchEntry.wire ∧
      view ran.transport = view link.transport ++ queued.batch.entries.map BatchEntry.wire ∧
      (∀ response ∈ responses, response.status = .ok) ∧
      responses.map AccessResponse.index = List.range accesses.length ∧
      responses.map AccessResponse.value = values ∧
      flushed.state = ran.state ∧ flushed.batch = {} ∧ ran.batch = {} := by
  have start : link.batch.Built link.state.selectCache [] := by
    rw [none]
    exact Batch.built_empty _
  have empty : link.batch.entries ≠ [] → Batch.fits link.batch.entries packetSize = true := by
    rw [none]
    exact absurd rfl
  obtain ⟨same, built⟩ := (Session.yields_queueAll start).of_ok queues
  have fits := (Session.fits_of_queueAll empty).of_ok queues
  rw [List.nil_append] at built
  rw [built.entries] at fits
  have holds (some : Batch.entriesFrom link.state.selectCache 0 accesses ≠ []) :=
    Batch.fits_mono room (fits some)
  have sending : ready queued.transport := by
    rw [same]
    exact isReady
  have flushing : queued.batch.entries ≠ [] →
      Batch.fits queued.batch.entries (Transport.packetSize queued.transport) = true := by
    rw [built.entries, same]
    exact holds
  have running : accesses ≠ [] → Batch.fits (Batch.entriesFrom link.state.selectCache 0 accesses)
      (Transport.packetSize link.transport) = true :=
    fun some ↦ holds fun nothing ↦ some (Batch.entriesFrom_eq_nil.mp nothing)
  obtain ⟨responses, flushed, flushes, responded, carried⟩ :=
    (probe.flush_obliging config sending (by rw [same]; exact active) (by rw [same]; exact clear)
      flushing).exists_ok
  obtain ⟨values, ran, runs, valued, carried'⟩ :=
    (probe.runEach_obliging config isReady none active clear 0 running).exists_ok
  have view' : view queued.transport = view link.transport := by rw [same]
  have state : queued.state = link.state := by rw [same]
  rw [built.entries, view'] at responded
  have log := carried.log
  have known := carried.state
  rw [view'] at log
  rw [built.entries, state, ← carried'.state] at known
  refine ⟨responses, values, flushed, ran, flushes, runs, log, ?_, ?_, ?_, ?_, known,
    carried.batch, carried'.batch⟩
  · rw [built.entries]
    exact carried'.log
  · rw [responded]
    exact fun response member ↦ Batch.status_completed member
  · rw [responded, Batch.index_completed, TargetModel.length_words, List.length_map,
      List.take_length, Batch.origins_entriesFrom, List.range_eq_range']
  · rw [responded]
    exact valued

/-- A link to a target of which nothing is known, and whose reads count the accesses so far. -/
private def counting : Link (Obliging fun log ↦ UInt32.ofNat log.length) where
  transport := {}
  state := { status := .connected .swd }

/-- Accesses to two banks of an access port and a write of SELECT. -/
private def mixed : List RegisterAccess :=
  [.read (.access 0 0xFC), .write (.debug DebugPort.selectAddress) 0x10, .read (.access 0 0x14),
    .write (.access 0 0x00) 7]

/-- Accesses that make SELECT change hands agree as a batch and one by one. -/
theorem Link.batch_agrees_mixed :
    ∃ queued responses values flushed ran,
      (Session.queueAll 64 mixed).outcome counting = (.ok (), queued) ∧
      (flush {}).outcome queued = (.ok responses, flushed) ∧
      (runEach {} mixed).outcome counting = (.ok values, ran) ∧
      flushed.transport.log = queued.batch.entries.map BatchEntry.wire ∧
      ran.transport.log = queued.batch.entries.map BatchEntry.wire ∧
      responses.map AccessResponse.value = values ∧ flushed.state = ran.state := by
  have ready : (fun _ : Obliging fun log ↦ UInt32.ofNat log.length ↦ True) counting.transport :=
    trivial
  have queues : (Session.queueAll 64 mixed).outcome counting =
      (.ok (), ((Session.queueAll 64 mixed).outcome counting).2) := by
    have ok : ((Session.queueAll 64 mixed).outcome counting).1 = .ok () := by rfl
    rw [← ok]
  obtain ⟨responses, values, flushed, ran, flushes, runs, log, log', -, -, valued, known, -⟩ :=
    batch_agrees (Obliging.truthful _) {} ready rfl rfl rfl (Nat.le_refl 64) queues
  exact ⟨_, responses, values, flushed, ran, queues, flushes, runs, log, log', valued, known⟩

end DebugProbe
