import DebugProbe.Proofs.Link.Registers

/-!
# Accesses that are tried

Over a truthful probe the accesses of a batch are tried in order, each again and again until it is
carried out or given up; nothing but these accesses is put to the target.
-/

namespace DebugProbe

variable {σ τ : Type}

namespace TargetModel

/-- Accesses are tried in order, each until it is carried out; `left` are those that were not. -/
inductive Tries (model : TargetModel τ) : List Transfer → τ → (left : List Transfer) → τ → Prop
  | stop (transfers : List Transfer) (state : τ) : Tries model transfers state transfers state
  | refused {transfer : Transfer} {rest left : List Transfer} {state next last : τ} {code : UInt8}
      (step : model.refuses transfer code state next)
      (later : Tries model (transfer :: rest) next left last) :
      Tries model (transfer :: rest) state left last
  | completed {transfer : Transfer} {rest left : List Transfer} {state next last : τ}
      {word : Option UInt32} (kind : word.isSome = transfer.isRead)
      (step : model.completes transfer word state next) (later : Tries model rest next left last) :
      Tries model (transfer :: rest) state left last

variable {model : TargetModel τ}

/-- What was not carried out is tried later. -/
theorem Tries.trans {transfers left remaining : List Transfer} {state middle last : τ}
    (first : model.Tries transfers state left middle)
    (later : model.Tries left middle remaining last) :
    model.Tries transfers state remaining last := by
  induction first with
  | stop transfers state => exact later
  | refused step _ ih => exact .refused step (ih later)
  | completed kind step _ ih => exact .completed kind step (ih later)

/-- A frame tries the accesses in it, as the first of those that are left. -/
theorem Answers.tries {transfers : List Transfer} {state last : τ} {data : List (Option UInt32)}
    {code : UInt8} (answers : model.Answers transfers state data code last)
    (more : List Transfer) :
    model.Tries (transfers ++ more) state ((transfers ++ more).drop data.length) last := by
  induction answers with
  | all success => exact .stop _ _
  | refused failure step => exact .refused step (.stop _ _)
  | completed kind step _ ih => exact .completed kind step ih

/-- A frame that broke off tried some of the accesses in it. -/
theorem Interrupted.tries {transfers : List Transfer} {state next : τ}
    (interrupted : model.Interrupted transfers state next) (more : List Transfer) :
    ∃ left, model.Tries (transfers ++ more) state left next := by
  obtain ⟨part, data, code, ⟨rest, rfl⟩, answers⟩ := interrupted
  rw [List.append_assoc]
  exact ⟨_, answers.tries _⟩

end TargetModel

namespace TruthfulProbe

variable [Transport σ] {model : TargetModel τ} {view : σ → τ} {ready broken : σ → Prop}

/-- The link tried some entries, from the first one on. -/
def Tried (model : TargetModel τ) (view : σ → τ) (entries : List BatchEntry)
    (link next : Link σ) : Prop :=
  ∃ left, model.Tries (entries.map BatchEntry.wire) (view link.transport) left
    (view next.transport)

/-- The frame of a batch comes first in it. -/
private theorem wires_nextFrame (entry : BatchEntry) (rest : List BatchEntry) (waits : Nat) :
    ∃ more, (entry :: rest).map BatchEntry.wire =
      ((Link.nextFrame entry rest waits).map (·.transfer)).map Transfer.onWire ++ more := by
  rw [List.map_map]
  unfold Link.nextFrame
  split
  · exact ⟨rest.map BatchEntry.wire, rfl⟩
  · exact ⟨[], (List.append_nil _).symm⟩

/-- What a frame left is tried next. -/
private theorem tried_of_answered {link : Link σ} {entry : BatchEntry} {rest : List BatchEntry}
    {waits limit repeated : Nat} {data : List (Option UInt32)} {status : UInt8} {next : σ}
    (answered : Probe.Answered model view ready
      ((Link.nextFrame entry rest waits).map (·.transfer)) link.transport data status next)
    (later : (Link.sendEntries limit ((entry :: rest).drop data.length) repeated).Yields
      (link.afterEntries next ((Link.nextFrame entry rest waits).take data.length))
      (fun _ ↦ Tried model view ((entry :: rest).drop data.length)
        (link.afterEntries next ((Link.nextFrame entry rest waits).take data.length)))
      (fun _ ↦ Tried model view ((entry :: rest).drop data.length)
        (link.afterEntries next ((Link.nextFrame entry rest waits).take data.length)))) :
    (Link.sendEntries limit ((entry :: rest).drop data.length) repeated).Yields
      (link.afterEntries next ((Link.nextFrame entry rest waits).take data.length))
      (fun _ ↦ Tried model view (entry :: rest) link)
      (fun _ ↦ Tried model view (entry :: rest) link) := by
  obtain ⟨more, wires⟩ := wires_nextFrame entry rest waits
  have first := answered.2.2.tries more
  rw [← wires, ← List.map_drop] at first
  exact later.imp (fun _ _ ⟨left, tries⟩ ↦ ⟨left, first.trans tries⟩)
    fun _ _ ⟨left, tries⟩ ↦ ⟨left, first.trans tries⟩

/-- Entries are tried in order, however many frames they take. -/
private theorem sendEntries_tries (probe : TruthfulProbe model view ready broken) (limit : Nat)
    (entries : List BatchEntry) (waits : Nat) {link : Link σ} (isReady : ready link.transport) :
    (Link.sendEntries limit entries waits).Yields link (fun _ ↦ Tried model view entries link)
      (fun _ ↦ Tried model view entries link) := by
  induction entries, waits using @Link.sendEntries_induction limit generalizing link with
  | nil waits =>
    rw [Link.sendEntries, Action.yields_pure]
    exact ⟨_, .stop _ _⟩
  | cons entry rest waits progressing again =>
    obtain ⟨more, wires⟩ := wires_nextFrame entry rest waits
    apply probe.sendEntries_cons isReady rfl
    case breaking =>
      rintro error next isBroken ⟨-, -, part⟩
      have tries := part.tries more
      rw [← wires] at tries
      exact tries
    case completed =>
      intro data status next answered all
      refine tried_of_answered answered (progressing _ ?_ answered.1)
      have := Link.length_nextFrame_pos entry rest waits
      rw [List.length_drop, List.length_cons, all]
      omega
    case waiting =>
      intro data status next answered less wait fewer
      refine tried_of_answered answered (again _ ?_ fewer answered.1)
      rw [List.length_drop]
      omega
    case ended =>
      intro data status next failure sticky pending answered less ends
      have tries := answered.2.2.tries more
      rw [← wires] at tries
      exact ⟨_, tries⟩

/-- A batch is tried in order. -/
private theorem flush_tries (probe : TruthfulProbe model view ready broken)
    (config : TransferConfig) {link : Link σ} (isReady : ready link.transport) :
    (Link.flush config).Yields link (fun _ ↦ Tried model view link.batch.entries link)
      (fun _ ↦ Tried model view link.batch.entries link) := by
  have refused : Tried model view link.batch.entries link link.discard := ⟨_, .stop _ _⟩
  unfold Link.flush
  simp only [Action.yields_bind, Action.yields_get, Action.yields_update]
  rw [Link.yields_checkReady]
  refine ⟨fun _ ↦ refused, fun _ _ ↦ refused, fun _ _ ↦ ?_⟩
  rw [Action.yields_ite]
  constructor
  · intro _
    exact refused
  · intro _
    rw [Action.yields_onError]
    have sending : ready link.discard.transport := isReady
    exact probe.sendEntries_tries _ _ 0 sending

/-- A single access is tried, after the write of SELECT that it needs. -/
theorem run_tries (probe : TruthfulProbe model view ready broken) (config : TransferConfig)
    {link : Link σ} (isReady : ready link.transport) (none : link.batch = {})
    (access : RegisterAccess) :
    (Link.run config access).Yields link
      (fun _ ↦ Tried model view (Batch.entriesFor link.state.selectCache access 0) link)
      (fun _ ↦ Tried model view (Batch.entriesFor link.state.selectCache access 0) link) := by
  have refused : Tried model view (Batch.entriesFor link.state.selectCache access 0) link link :=
    ⟨_, .stop _ _⟩
  unfold Link.run
  rw [Action.yields_bind, Link.yields_checkNoneQueued_of none, Action.yields_bind,
    Link.yields_onProbe]
  show Action.Yields _ link _ _
  rw [Action.yields_bind, Link.yields_queue, Link.yields_checkReady]
  refine ⟨fun _ ↦ refused, fun _ _ ↦ refused, fun _ _ ↦ ?_⟩
  cases pushed : link.batch.push? link.state.selectCache _ access with
  | none => exact refused
  | some batch =>
    obtain ⟨-, shape⟩ := Batch.push?_eq_some_iff.mp pushed
    rw [none] at shape
    have entries : batch.entries = Batch.entriesFor link.state.selectCache access 0 := by
      rw [shape]
      rfl
    dsimp only
    rw [Action.yields_bind]
    have stays : ready ({ link with batch } : Link σ).transport := isReady
    refine (probe.flush_tries config stays).imp ?_ ?_
    · intro responses next tried
      rw [entries] at tried
      cases responses with
      | nil => exact tried
      | cons response rest =>
        dsimp only
        rw [Action.yields_ofExcept]
        split
        · exact tried
        · exact tried
    · intro error next tried
      rw [entries] at tried
      exact tried

end TruthfulProbe

end DebugProbe
