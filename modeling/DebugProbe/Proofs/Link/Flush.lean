import DebugProbe.Proofs.Link.Responses
import DebugProbe.Proofs.Link.Steps
import DebugProbe.Proofs.Probe.Truthful

/-!
# Sending a batch

How entries go out over a truthful probe, frame by frame.
-/

namespace DebugProbe

variable {σ τ : Type} [Transport σ]

namespace Link

/-- The entries of the next frame: all that are left, or only the one that has to wait. -/
def nextFrame (entry : BatchEntry) (rest : List BatchEntry) (waits : Nat) : List BatchEntry :=
  if 0 < waits then [entry] else entry :: rest

theorem nextFrame_sublist (entry : BatchEntry) (rest : List BatchEntry) (waits : Nat) :
    (nextFrame entry rest waits).Sublist (entry :: rest) := by
  unfold nextFrame
  split
  · exact List.Sublist.cons_cons entry (List.nil_sublist rest)
  · exact List.Sublist.refl _

theorem length_nextFrame_pos (entry : BatchEntry) (rest : List BatchEntry) (waits : Nat) :
    0 < (nextFrame entry rest waits).length := by
  unfold nextFrame
  split
  · exact Nat.zero_lt_succ _
  · exact Nat.zero_lt_succ _

/-- The first entries of a frame are the first entries of the batch. -/
theorem take_nextFrame {entry : BatchEntry} {rest : List BatchEntry} {waits count : Nat}
    (le : count ≤ (nextFrame entry rest waits).length) :
    (nextFrame entry rest waits).take count = (entry :: rest).take count := by
  unfold nextFrame at le ⊢
  split
  · next waiting =>
    rw [if_pos waiting] at le
    match count with
    | 0 => rfl
    | 1 => rfl
  · rfl

/-- The link after some entries completed. -/
def afterEntries (link : Link σ) (transport : σ) (entries : List BatchEntry) : Link σ :=
  { link with
    transport
    state := { link.state with selectCache := selectAfter link.state.selectCache entries } }

/-- The link after a failure: what SELECT holds is no longer known. -/
def afterFailure (link : Link σ) (transport : σ) (sticky pending : Bool) : Link σ :=
  { link with
    transport
    state := { link.state with
      selectCache := none, stickyError := sticky, lineResetPending := pending } }

/-- Sending ends because a frame makes progress or leaves one WAIT less to be borne. -/
theorem sendEntries_induction {limit : Nat} {motive : List BatchEntry → Nat → Prop}
    (nil : ∀ waits, motive [] waits)
    (cons : ∀ entry rest waits,
      (∀ left, left.length < (entry :: rest).length → motive left 0) →
      (∀ left, left.length ≤ (entry :: rest).length → waits + 1 < limit →
        motive left (waits + 1)) →
      motive (entry :: rest) waits)
    (entries : List BatchEntry) (waits : Nat) : motive entries waits := by
  match entries with
  | [] => exact nil waits
  | entry :: rest =>
    apply cons entry rest waits
    · intro left less
      exact sendEntries_induction nil cons left 0
    · intro left le more
      exact sendEntries_induction nil cons left (waits + 1)
termination_by (entries.length, limit - waits)
decreasing_by
  · exact Prod.Lex.left _ _ less
  · rcases Nat.lt_or_eq_of_le le with less | same
    · exact Prod.Lex.left _ _ less
    · rw [same]
      apply Prod.Lex.right
      omega

end Link

/-- How the accesses of a frame can fail for good. -/
def AccessStatus.EndsAfter (failure : AccessStatus) (status : TransferStatus)
    (exhausted : Prop) : Prop :=
  status.IsWait ∧ exhausted ∧ failure = .retryExhausted ∨
    ¬status.IsWait ∧ (failure = .fault ∨ failure = .noResponse)

namespace TruthfulProbe

variable {model : TargetModel τ} {view : σ → τ} {ready broken : σ → Prop}

/-- One frame of a batch. It breaks, or completes as a whole, or stops at an entry that has to be
sent again, or stops for good. -/
theorem sendEntries_cons (probe : TruthfulProbe model view ready broken) {link : Link σ}
    (isReady : ready link.transport) {limit waits : Nat} {entry : BatchEntry}
    {rest frame : List BatchEntry} (isFrame : frame = Link.nextFrame entry rest waits)
    {done : List AccessResponse → Link σ → Prop} {failed : AccessError → Link σ → Prop}
    (breaking : ∀ error next, error.isBroken = true →
      Probe.Broken model view ready broken (frame.map (·.transfer))
        ((TransferRequest.ofEntries link.state.dapIndex frame).Fits
          (Transport.packetSize link.transport)) link.transport next →
      failed error { link with transport := next })
    (completed : ∀ data status next,
      Probe.Answered model view ready (frame.map (·.transfer)) link.transport data status next →
      data.length = frame.length →
      (Link.sendEntries limit ((entry :: rest).drop data.length) 0).Yields
        (link.afterEntries next (frame.take data.length))
        (fun more ↦ done (Batch.completed frame data ++ more)) failed)
    (waiting : ∀ data status next,
      Probe.Answered model view ready (frame.map (·.transfer)) link.transport data status next →
      data.length < frame.length → (TransferStatus.ofByte status).IsWait → waits + 1 < limit →
      (Link.sendEntries limit ((entry :: rest).drop data.length) (waits + 1)).Yields
        (link.afterEntries next (frame.take data.length))
        (fun more ↦ done (Batch.completed frame data ++ more)) failed)
    (ended : ∀ data status next failure sticky pending,
      Probe.Answered model view ready (frame.map (·.transfer)) link.transport data status next →
      data.length < frame.length →
      AccessStatus.EndsAfter failure (.ofByte status) (limit ≤ waits + 1) →
      done (Batch.completed frame data ++ Batch.failed failure ((entry :: rest).drop data.length))
        (link.afterFailure next sticky pending)) :
    (Link.sendEntries limit (entry :: rest) waits).Yields link done failed := by
  rw [Link.sendEntries]
  rw [Link.nextFrame] at isFrame
  simp only [← isFrame, Action.yields_bind, Action.yields_get, Link.yields_command]
  refine (probe.transfer isReady _).imp ?_ ?_
  · rintro reply next ⟨data, status, rfl, answered⟩
    have atMost := answered.2.2.length_le
    have allOrNot := answered.2.2.isOk_iff
    simp only [TransferRequest.ofEntries, List.length_map] at atMost allOrNot
    rw [Link.yields_modifyState]
    show Action.Yields _ (link.afterEntries next (frame.take data.length)) _ _
    rw [Action.yields_ite]
    constructor
    · intro ok
      have all := allOrNot.mp ok
      rw [if_pos all, Action.yields_bind]
      simp only [Action.yields_pure]
      exact completed data status next answered all
    · intro notOk
      have less : data.length < frame.length :=
        Nat.lt_of_le_of_ne atMost fun all ↦ notOk (allOrNot.mpr all)
      rw [if_neg (Nat.not_le.mpr less), Action.yields_bind, Link.yields_noteFailure]
      rcases Link.classify_cases (.ofByte status)
        (link.afterEntries next (frame.take data.length)).state with
        ⟨wait, classified⟩ | ⟨failure, sticky, pending, classified, notWait, kind⟩
      · rw [classified]
        dsimp only
        rw [Action.yields_ite]
        constructor
        · intro exhausted
          exact ended data status next .retryExhausted _ _ answered less
            (.inl ⟨wait, exhausted, rfl⟩)
        · intro notExhausted
          simp only [Action.yields_bind, Action.yields_pure]
          exact waiting data status next answered less wait (Nat.lt_of_not_le notExhausted)
      · rw [classified]
        exact ended data status next failure sticky pending answered less (.inr ⟨notWait, kind⟩)
  · rintro error next ⟨isBroken, part⟩
    exact breaking _ _ isBroken part

/-- A batch was sent: some entries were carried out, and either these were all of them or the first
access after them failed. -/
def Sent (model : TargetModel τ) (view : σ → τ) (ready : σ → Prop) (entries : List BatchEntry)
    (link : Link σ) (responses : List AccessResponse) (next : Link σ) : Prop :=
  ready next.transport ∧
    Transport.packetSize next.transport = Transport.packetSize link.transport ∧
    ∃ data, model.CarriesEntries entries (view link.transport) data (view next.transport) ∧
      (data.length = entries.length ∧ responses = Batch.completed entries data ∧
          next = link.afterEntries next.transport entries ∨
        ∃ failure sticky pending, data.length < entries.length ∧
          (failure = .fault ∨ failure = .noResponse ∨ failure = .retryExhausted) ∧
          responses = Batch.completed entries data ++
            Batch.failed failure (entries.drop data.length) ∧
          next = link.afterFailure next.transport sticky pending)

/-- A batch was lost on the way: an exchange broke off, after some entries were carried out. -/
def Lost (model : TargetModel τ) (view : σ → τ) (ready broken : σ → Prop)
    (entries : List BatchEntry) (link : Link σ) (error : AccessError) (next : Link σ) : Prop :=
  error.isBroken = true ∧
    (Batch.fits entries (Transport.packetSize link.transport) = true → model.breaks) ∧
    (ready next.transport ∨ broken next.transport) ∧
    (∃ cache, next = { link with
      transport := next.transport, state := { link.state with selectCache := cache } }) ∧
    ∃ data, model.CarriesEntries entries (view link.transport) data (view next.transport)

/-- What was carried out of a frame was carried out of the batch. -/
private theorem carriesEntries_of_nextFrame {entry : BatchEntry} {rest : List BatchEntry}
    {waits : Nat} {state next : τ} {data : List (Option UInt32)}
    (le : data.length ≤
      (((Link.nextFrame entry rest waits).map (·.transfer)).map Transfer.onWire).length)
    (carries : model.Carries
      ((((Link.nextFrame entry rest waits).map (·.transfer)).map Transfer.onWire).take data.length)
      state data next) :
    model.CarriesEntries (entry :: rest) state data next := by
  rw [List.length_map, List.length_map] at le
  rw [← List.map_take, ← List.map_take, Link.take_nextFrame le, List.map_map] at carries
  exact ⟨Nat.le_trans le (Link.nextFrame_sublist entry rest waits).length_le, carries⟩

/-- A batch that is sent after part of a larger one was carried out completes the larger one. -/
private theorem Sent.after {link : Link σ} {entries : List BatchEntry}
    {data : List (Option UInt32)} {transport : σ} {responses : List AccessResponse}
    {next : Link σ}
    (same : Transport.packetSize transport = Transport.packetSize link.transport)
    (first : model.CarriesEntries entries (view link.transport) data (view transport))
    (sent : Sent model view ready (entries.drop data.length)
      (link.afterEntries transport (entries.take data.length)) responses next) :
    Sent model view ready entries link (Batch.completed entries data ++ responses) next := by
  obtain ⟨isReady, size, later, second, outcome⟩ := sent
  have le := first.1
  refine ⟨isReady, size.trans same, data ++ later, first.append second, ?_⟩
  rw [List.length_append]
  rcases outcome with ⟨all, rfl, after⟩ |
    ⟨failure, sticky, pending, less, kind, rfl, after⟩
  · left
    rw [List.length_drop] at all
    refine ⟨by omega, (Batch.completed_append le later).symm, ?_⟩
    rw [after]
    unfold Link.afterEntries
    dsimp only
    rw [← selectAfter_append, List.take_append_drop]
  · right
    rw [List.length_drop] at less
    refine ⟨failure, sticky, pending, by omega, kind, ?_, after⟩
    rw [Batch.completed_append le, List.append_assoc, List.drop_drop]

/-- A batch that is lost after part of a larger one was carried out loses the larger one. -/
private theorem Lost.after {link : Link σ} {entries : List BatchEntry}
    {data : List (Option UInt32)} {transport : σ} {error : AccessError} {next : Link σ}
    (same : Transport.packetSize transport = Transport.packetSize link.transport)
    (first : model.CarriesEntries entries (view link.transport) data (view transport))
    (lost : Lost model view ready broken (entries.drop data.length)
      (link.afterEntries transport (entries.take data.length)) error next) :
    Lost model view ready broken entries link error next := by
  obtain ⟨isBroken, unfit, left, after, later, second⟩ := lost
  refine ⟨isBroken, fun fits ↦ unfit ?_, left, after, data ++ later, first.append second⟩
  show Batch.fits _ (Transport.packetSize transport) = true
  rw [same]
  exact Batch.fits_sublist (List.drop_sublist _ _) fits

/-- What was carried out of a frame, as part of the batch that the frame belongs to. -/
private theorem answered_nextFrame {link : Link σ} {entry : BatchEntry} {rest : List BatchEntry}
    {waits : Nat} {data : List (Option UInt32)} {status : UInt8} {next : σ}
    (answered : Probe.Answered model view ready
      ((Link.nextFrame entry rest waits).map (·.transfer)) link.transport data status next) :
    model.CarriesEntries (entry :: rest) (view link.transport) data (view next) ∧
      (Link.nextFrame entry rest waits).take data.length = (entry :: rest).take data.length ∧
      Batch.completed (Link.nextFrame entry rest waits) data =
        Batch.completed (entry :: rest) data := by
  have le := answered.2.2.length_le
  have carries := carriesEntries_of_nextFrame le answered.2.2.carries
  rw [List.length_map, List.length_map] at le
  have same := Link.take_nextFrame le
  refine ⟨carries, same, ?_⟩
  rw [← Batch.completed_take (Link.nextFrame entry rest waits), same, Batch.completed_take]

/-- What a frame completed counts towards the whole batch. -/
private theorem continue_sendEntries {limit waits repeated : Nat} {link : Link σ}
    {entry : BatchEntry} {rest : List BatchEntry} {data : List (Option UInt32)} {status : UInt8}
    {next : σ}
    (answered : Probe.Answered model view ready
      ((Link.nextFrame entry rest waits).map (·.transfer)) link.transport data status next)
    (later : ∀ {link : Link σ}, ready link.transport →
      (Link.sendEntries limit ((entry :: rest).drop data.length) repeated).Yields link
        (Sent model view ready ((entry :: rest).drop data.length) link)
        (Lost model view ready broken ((entry :: rest).drop data.length) link)) :
    (Link.sendEntries limit ((entry :: rest).drop data.length) repeated).Yields
      (link.afterEntries next ((Link.nextFrame entry rest waits).take data.length))
      (fun more ↦ Sent model view ready (entry :: rest) link
        (Batch.completed (Link.nextFrame entry rest waits) data ++ more))
      (Lost model view ready broken (entry :: rest) link) := by
  obtain ⟨first, taken, responses⟩ := answered_nextFrame answered
  rw [responses, taken]
  exact (later answered.1).imp (fun _ _ sent ↦ sent.after answered.2.1 first)
    (fun _ _ lost ↦ lost.after answered.2.1 first)

/-- Entries are carried out in order and each once, however many frames they take. -/
theorem sendEntries (probe : TruthfulProbe model view ready broken) (limit : Nat)
    (entries : List BatchEntry) (waits : Nat) {link : Link σ} (isReady : ready link.transport) :
    (Link.sendEntries limit entries waits).Yields link
      (Sent model view ready entries link) (Lost model view ready broken entries link) := by
  induction entries, waits using @Link.sendEntries_induction limit generalizing link with
  | nil waits =>
    rw [Link.sendEntries, Action.yields_pure]
    exact ⟨isReady, rfl, [], ⟨Nat.le_refl _, .nil _⟩, .inl ⟨rfl, rfl, rfl⟩⟩
  | cons entry rest waits progressing again =>
    apply probe.sendEntries_cons isReady rfl
    · rintro error next isBroken ⟨unfit, left, part⟩
      refine ⟨isBroken, fun fits ↦ unfit ?_, left, ⟨link.state.selectCache, rfl⟩, ?_⟩
      · exact (Batch.fits_iff _).mp
          (Batch.fits_sublist (Link.nextFrame_sublist entry rest waits) fits)
      · obtain ⟨data, le, carries⟩ := part.carries
        exact ⟨data, carriesEntries_of_nextFrame le carries⟩
    · intro data status next answered all
      refine continue_sendEntries answered (progressing _ ?_)
      have := Link.length_nextFrame_pos entry rest waits
      rw [List.length_drop, List.length_cons, all]
      omega
    · intro data status next answered less wait more
      refine continue_sendEntries answered (again _ ?_ more)
      rw [List.length_drop]
      omega
    · intro data status next failure sticky pending answered less ends
      obtain ⟨first, -, responses⟩ := answered_nextFrame answered
      rw [responses]
      refine ⟨answered.1, answered.2.1, data, first,
        .inr ⟨failure, sticky, pending, ?_, ?_, rfl, rfl⟩⟩
      · exact Nat.lt_of_lt_of_le less (Link.nextFrame_sublist entry rest waits).length_le
      · rcases ends with ⟨-, -, exhausted⟩ | ⟨-, fault | noResponse⟩
        · exact .inr (.inr exhausted)
        · exact .inl fault
        · exact .inr (.inl noResponse)

/-- A flush sends the batch, or refuses to send any of it, or loses it on the way. -/
theorem flush (probe : TruthfulProbe model view ready broken) (config : TransferConfig)
    {link : Link σ} (isReady : ready link.transport) :
    (Link.flush config).Yields link
      (fun responses next ↦ link.state.isActive = true ∧ link.state.stickyError = false ∧
        Sent model view ready link.batch.entries link.discard responses next)
      (fun error next ↦
        (error = .notConnected ∨ error = .stickyErrorPending) ∧ next = link.discard ∨
        ∃ lost, Lost model view ready broken link.batch.entries link.discard error lost ∧
          next = lost.forgetSelect) := by
  unfold Link.flush
  simp only [Action.yields_bind, Action.yields_get, Action.yields_update]
  rw [Link.yields_checkReady]
  refine ⟨fun _ ↦ .inl ⟨.inl rfl, rfl⟩, fun _ _ ↦ .inl ⟨.inr rfl, rfl⟩, fun active clear ↦ ?_⟩
  rw [Action.yields_ite]
  constructor
  · intro empty
    rw [List.isEmpty_iff.mp empty]
    exact ⟨active, clear, isReady, rfl, [], ⟨Nat.le_refl _, .nil _⟩, .inl ⟨rfl, rfl, rfl⟩⟩
  · intro some
    rw [Action.yields_onError]
    have sending : ready link.discard.transport := isReady
    exact (probe.sendEntries _ _ 0 sending).imp
      (fun _ _ sent ↦ ⟨active, clear, sent⟩) (fun _ next lost ↦ .inr ⟨next, lost, rfl⟩)

end TruthfulProbe

end DebugProbe
