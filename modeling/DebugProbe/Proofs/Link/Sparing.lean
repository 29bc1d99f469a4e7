import DebugProbe.Proofs.Link.Block
import DebugProbe.Proofs.Link.Sending
import DebugProbe.Proofs.Session.Batches

/-!
# Accesses on quiet links

Single accesses, blocks and batches of accesses to memory all begin on a quiet link and leave it
quiet unless they fail.
-/

namespace DebugProbe

open Batch (built_empty)

variable {σ : Type} [Transport σ]

namespace Link

variable {α β : Type}

/-- On a quiet link the action does nothing but access registers, and leaves the link quiet unless
it fails. -/
def Spares (action : Action (Link σ) AccessError α) : Prop :=
  ∀ link : Link σ, link.Quiet → action.Yields link
    (fun _ next ↦ (∃ turns, link.Went (·.isAccess = true) turns next) ∧ next.Quiet)
    (fun _ next ↦ ∃ turns, link.Went (·.isAccess = true) turns next)

section Rules

theorem spares_pure (value : α) : Spares (pure value : Action (Link σ) AccessError α) :=
  fun link quiet ↦ ⟨⟨[], .nil _ link⟩, quiet⟩

theorem spares_throw (error : AccessError) :
    Spares (throw error : Action (Link σ) AccessError α) :=
  fun link _ ↦ ⟨[], .nil _ link⟩

theorem spares_ofExcept (result : Except AccessError α) :
    Spares (Action.ofExcept result : Action (Link σ) AccessError α) := by
  cases result with
  | ok value => exact spares_pure value
  | error error => exact spares_throw error

theorem spares_get_bind {next : Link σ → Action (Link σ) AccessError β}
    (later : ∀ link, Spares (next link)) : Spares (get >>= next) :=
  fun link quiet ↦ Action.yields_bind.mpr (later link link quiet)

/-- What follows starts on a link that is still quiet. -/
theorem Spares.yields_bind {action : Action (Link σ) AccessError α}
    {next : α → Action (Link σ) AccessError β} {start link : Link σ} {turns : List Turn}
    (went : start.Went (·.isAccess = true) turns link) (quiet : link.Quiet)
    (spares : Spares action) (later : ∀ value, Spares (next value)) :
    (action >>= next).Yields link
      (fun _ next ↦ (∃ turns, start.Went (·.isAccess = true) turns next) ∧ next.Quiet)
      (fun _ next ↦ ∃ turns, start.Went (·.isAccess = true) turns next) := by
  rw [Action.yields_bind]
  refine (spares link quiet).imp ?_ ?_
  · rintro value middle ⟨⟨more, went'⟩, still⟩
    refine (later value middle still).imp ?_ ?_
    · rintro _ last ⟨⟨rest, went''⟩, quiet''⟩
      exact ⟨⟨_, went.append quiet (went'.append still went'')⟩, quiet''⟩
    · rintro _ last ⟨rest, went''⟩
      exact ⟨_, went.append quiet (went'.append still went'')⟩
  · rintro _ middle ⟨more, went'⟩
    exact ⟨_, went.append quiet went'⟩

theorem Spares.bind {action : Action (Link σ) AccessError α}
    {next : α → Action (Link σ) AccessError β} (spares : Spares action)
    (later : ∀ value, Spares (next value)) : Spares (action >>= next) :=
  fun link quiet ↦ spares.yields_bind (.nil _ link) quiet later

end Rules

theorem checkReady_spares : Spares (σ := σ) checkReady :=
  fun link quiet ↦ yields_checkReady.mpr ⟨fun _ ↦ ⟨[], .nil _ link⟩, fun _ _ ↦ ⟨[], .nil _ link⟩,
    fun _ _ ↦ ⟨⟨[], .nil _ link⟩, quiet⟩⟩

theorem checkNoneQueued_spares : Spares (σ := σ) checkNoneQueued :=
  fun link quiet ↦ yields_checkNoneQueued.mpr
    ⟨fun _ ↦ ⟨[], .nil _ link⟩, fun _ ↦ ⟨⟨[], .nil _ link⟩, quiet⟩⟩

theorem packetSize_spares : Spares (σ := σ) (onProbe Probe.packetSize) :=
  fun link quiet ↦ ⟨⟨[], .nil _ link⟩, quiet⟩

theorem run_spares (config : TransferConfig) (access : RegisterAccess) :
    Spares (σ := σ) (run config access) := by
  intro link quiet
  refine (yields_run config access quiet).imp ?_ ?_
  · rintro _ next ⟨turns, went, still, -⟩
    exact ⟨⟨turns, went.mono fun _ sends ↦ sends.isAccess⟩, still⟩
  · rintro _ next ⟨turns, went, -⟩
    exact ⟨turns, went.mono fun _ sends ↦ sends.isAccess⟩

theorem select_spares (config : TransferConfig) (register : RegisterAddress) :
    Spares (σ := σ) (select config register) := by
  refine spares_get_bind fun link ↦ ?_
  split
  · exact (run_spares config _).bind fun _ ↦ spares_pure ()
  · exact spares_pure ()

theorem resumeBlock_spares (config : TransferConfig) (register : RegisterAddress)
    (resume : Option BlockResume) (completed : Nat) :
    Spares (σ := σ) (resumeBlock config register resume completed) := by
  cases resume with
  | none => exact spares_pure ()
  | some resume => exact (run_spares config _).bind fun _ ↦ select_spares config register

/-- A block is sent frame by frame, until it is complete or an access of it failed. -/
theorem sendBlock_spares (config : TransferConfig) (register : RegisterAddress)
    (resume : Option BlockResume) (maxWords : Nat) (data : BlockData) (completed waits : Nat) :
    Spares (σ := σ) (sendBlock config register resume maxWords data completed waits) := by
  induction data, completed, waits using @sendBlock_induction (waitLimit config) with
  | nil data completed waits empty =>
    rw [sendBlock, if_pos empty]
    exact spares_pure []
  | frame data completed waits left progressing again =>
    intro link quiet
    rw [sendBlock, if_neg (Nat.ne_of_gt left)]
    simp only [Action.yields_bind, Action.yields_get, Action.yields_onError, yields_command]
    unfold Probe.transferBlock
    refine (Probe.yields_request _ _).imp ?_ ?_
    · rintro reply transport ⟨written, leads⟩
      have went : link.Went (·.isAccess = true) [_] { link with transport } :=
        ⟨.turn leads (.nil transport), List.forall_mem_singleton.mpr rfl, rfl,
          .calm link.state.selectCache⟩
      have still : ({ link with transport } : Link σ).Quiet :=
        ⟨quiet.batch, quiet.sticky, quiet.pending⟩
      rw [Action.yields_ite]
      constructor
      · intro _
        rw [Action.yields_ite]
        constructor
        · intro all
          have some : 0 < reply.count := by
            rw [all]
            omega
          exact (progressing _ some).yields_bind went still fun _ ↦ spares_pure _
        · intro _
          exact ⟨[_], went.forget⟩
      · intro _
        rw [Action.yields_bind, yields_noteFailure]
        rcases classify_marked ⟨.transferBlock _, written, .ok reply⟩ link.state [] rfl with
          wait | ⟨failure, noted, failed, -, marked⟩
        · rw [wait]
          dsimp only
          rw [Action.yields_ite]
          constructor
          · intro _
            exact ⟨[_], went.forget⟩
          · intro more
            exact (resumeBlock_spares config register resume _).yields_bind went still fun _ ↦
              (again _ (Nat.lt_of_not_le more)).bind fun _ ↦ spares_pure _
        · rw [failed]
          exact ⟨[_], { went with state := marked }⟩
    · rintro _ transport ⟨-, written, cause, leads⟩
      exact ⟨[_], .turn leads (.nil transport), List.forall_mem_singleton.mpr rfl, rfl, .calm none⟩

theorem block_spares (config : TransferConfig) (register : RegisterAddress) (data : BlockData)
    (resume : Option BlockResume) : Spares (σ := σ) (block config register data resume) :=
  checkReady_spares.bind fun _ ↦ checkNoneQueued_spares.bind fun _ ↦
    (select_spares config register).bind fun _ ↦ packetSize_spares.bind fun _ ↦
      sendBlock_spares config register resume _ data 0 0

end Link

namespace Session

open Link (Spares spares_pure spares_ofExcept)

/-- Values come from responses that are all OK. -/
private theorem ok_of_results {responses : List AccessResponse} {values : List (Option UInt32)}
    (given : results responses = .ok values) : ∀ response ∈ responses, response.status = .ok := by
  by_contra bad
  simp only [not_forall] at bad
  obtain ⟨response, member, notOk⟩ := bad
  obtain ⟨error, failed⟩ := results_of_not_ok ⟨response, member, notOk⟩
  rw [failed] at given
  nomatch given

/-- Accesses that are run as one batch are all answered OK, or one of them failed. -/
theorem runAll_spares (config : TransferConfig) (accesses : List RegisterAccess) :
    Spares (σ := σ) (runAll config accesses) := by
  intro link quiet
  have refused : ∃ turns, link.Went (·.isAccess = true) turns link := ⟨[], .nil _ link⟩
  unfold runAll
  rw [Action.yields_bind, Link.yields_checkNoneQueued]
  refine ⟨fun _ ↦ refused, fun _ ↦ ?_⟩
  rw [Action.yields_bind, Link.yields_onProbe]
  unfold Probe.packetSize
  simp only [Action.yields_bind, Action.yields_get, Action.yields_pure]
  have empty : link.batch.Built link.state.selectCache [] := by
    rw [quiet.batch]
    exact built_empty _
  refine (yields_queueAll empty).imp ?_ ?_
  · rintro _ next ⟨same, built⟩
    have ends : ∀ entry ∈ next.batch.entries.getLast?, entry.origin.isSome = true := by
      rw [built.entries]
      exact Batch.last_entriesFrom _ _ _
    rw [same]
    have flushed := @Link.yields_flush σ _ { link with batch := next.batch } config quiet.sticky
      quiet.pending ends
    rw [quiet.discard next.batch] at flushed
    refine flushed.imp ?_ ?_
    · rintro responses last ⟨turns, sent⟩
      have went := sent.went.mono fun _ sends ↦ sends.isAccess
      rw [Action.yields_ofExcept]
      cases given : results responses with
      | ok values =>
        rcases sent.settled with ⟨still, -⟩ | ⟨response, member, bad⟩
        · exact ⟨⟨turns, went⟩, still⟩
        · exact absurd (ok_of_results given response member) bad
      | error error => exact ⟨turns, went⟩
    · rintro _ last ⟨turns, went, -⟩
      exact ⟨turns, went.mono fun _ sends ↦ sends.isAccess⟩
  · rintro _ next rfl
    have same : link.discard = link := quiet.discard link.batch
    rw [same]
    exact refused

theorem readRegister_spares (config : TransferConfig) (register : RegisterAddress) :
    Spares (σ := σ) (readRegister config register) :=
  (Link.run_spares config _).bind fun _ ↦ spares_ofExcept _

theorem writeRegister_spares (config : TransferConfig) (register : RegisterAddress)
    (value : UInt32) : Spares (σ := σ) (writeRegister config register value) :=
  (Link.run_spares config _).bind fun _ ↦ spares_pure ()

private theorem readSpan_spares (config : TransferConfig) (port : MemoryPort) (span : MemorySpan) :
    Spares (σ := σ) (readSpan config port span) := by
  cases span with
  | byte address =>
    exact (runAll_spares config _).bind fun _ ↦ (spares_ofExcept _).bind fun _ ↦ spares_pure _
  | words address count =>
    exact (runAll_spares config _).bind fun _ ↦
      (Link.block_spares config port.drw (.read count) _).bind fun _ ↦ spares_pure _

private theorem writeSpan_spares (config : TransferConfig) (port : MemoryPort) (data : Bytes)
    (span : MemorySpan) : Spares (σ := σ) (writeSpan config port data span) := by
  cases span with
  | byte address => exact (runAll_spares config _).bind fun _ ↦ spares_pure ()
  | words address count =>
    exact (runAll_spares config _).bind fun _ ↦
      (Link.block_spares config port.drw (.write _) _).bind fun _ ↦ spares_pure ()

theorem readSpans_spares (config : TransferConfig) (port : MemoryPort) (spans : List MemorySpan) :
    Spares (σ := σ) (readSpans config port spans) := by
  induction spans with
  | nil => exact spares_pure []
  | cons span rest ih =>
    exact (readSpan_spares config port span).bind fun _ ↦ ih.bind fun _ ↦ spares_pure _

theorem writeSpans_spares (config : TransferConfig) (port : MemoryPort) (spans : List MemorySpan)
    (data : Bytes) : Spares (σ := σ) (writeSpans config port spans data) := by
  induction spans generalizing data with
  | nil => exact spares_pure ()
  | cons span rest ih => exact (writeSpan_spares config port _ span).bind fun _ ↦ ih _

end Session

end DebugProbe
