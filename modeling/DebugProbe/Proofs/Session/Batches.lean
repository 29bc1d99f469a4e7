import DebugProbe.Proofs.Link.Block
import DebugProbe.Session.Memory

/-!
# Accesses run as one batch

A memory access queues its own batches. Such a batch is performed as a whole, or the link gives up.
-/

namespace DebugProbe

variable {σ τ : Type} [Transport σ]

namespace Session

/-- Responses that are all OK have values as results. -/
theorem results_of_ok {responses : List AccessResponse}
    (ok : ∀ response ∈ responses, response.status = .ok) :
    results responses = .ok (responses.map AccessResponse.value) := by
  induction responses with
  | nil => rfl
  | cons response rest ih =>
    unfold results
    rw [AccessResponse.result_of_ok (ok response List.mem_cons_self),
      ih fun other member ↦ ok other (List.mem_cons_of_mem response member)]
    rfl

/-- A response that is not OK makes all of them fail. -/
theorem results_of_not_ok {responses : List AccessResponse}
    (notOk : ∃ response ∈ responses, response.status ≠ .ok) :
    ∃ error, results responses = .error error := by
  induction responses with
  | nil =>
    obtain ⟨response, member, -⟩ := notOk
    nomatch member
  | cons response rest ih =>
    unfold results
    by_cases ok : response.status = .ok
    · have later : ∃ response ∈ rest, response.status ≠ .ok := by
        obtain ⟨failed, member, notOk⟩ := notOk
        rcases List.mem_cons.mp member with rfl | member
        · exact absurd ok notOk
        · exact ⟨failed, member, notOk⟩
      obtain ⟨error, failed⟩ := ih later
      rw [AccessResponse.result_of_ok ok, failed]
      exact ⟨error, rfl⟩
    · rw [AccessResponse.result_of_not_ok ok]
      exact ⟨_, rfl⟩

omit [Transport σ] in
/-- Accesses are queued one after the other, or the batch is dropped. -/
theorem yields_queueAll {packetSize : Nat} {accesses queued : List RegisterAccess} {link : Link σ}
    (built : link.batch.Built link.state.selectCache queued) :
    (queueAll packetSize accesses).Yields link
      (fun _ next ↦ next = { link with batch := next.batch } ∧
        next.batch.Built link.state.selectCache (queued ++ accesses))
      (fun _ next ↦ next = link.discard) := by
  induction accesses generalizing queued link with
  | nil =>
    rw [List.append_nil]
    exact ⟨rfl, built⟩
  | cons access rest ih =>
    unfold queueAll
    rw [Action.yields_bind, Action.yields_onError, Link.yields_queue, Link.yields_checkReady]
    refine ⟨fun _ ↦ rfl, fun _ _ ↦ rfl, fun _ _ ↦ ?_⟩
    split
    · next batch pushed =>
      have grown : ({ link with batch } : Link σ).batch.Built
          ({ link with batch } : Link σ).state.selectCache (queued ++ [access]) :=
        built.push (fun _ ↦ rfl) pushed
      refine (ih grown).imp ?_ ?_
      · rintro _ next ⟨same, built⟩
        rw [List.append_assoc] at built
        exact ⟨by rw [same], built⟩
      · rintro error next rfl
        rfl
    · rfl

end Session

namespace TruthfulProbe

variable {model : TargetModel τ} {select : τ → UInt32} {view : σ → τ} {ready broken : σ → Prop}

/-- Accesses that are run as one batch are performed, or the link gives up. -/
theorem runAll (probe : TruthfulProbe model view ready broken)
    (tracks : model.TracksSelect select) (config : TransferConfig) {accesses : List RegisterAccess}
    (plain : ∀ access ∈ accesses, access.Plain) {link : Link σ}
    (free : Link.Free select view ready link) :
    (Session.runAll config accesses).Yields link
      (fun words next ↦ Link.Did model select view ready link accesses words next)
      (fun _ next ↦ Link.Stopped model select view ready broken link accesses next) := by
  have refused : Link.Stopped model select view ready broken link accesses link :=
    free.stopped accesses
  unfold Session.runAll
  rw [Action.yields_bind, Link.yields_checkNoneQueued]
  refine ⟨fun _ ↦ refused, fun _ ↦ ?_⟩
  rw [Action.yields_bind, Link.yields_onProbe]
  unfold Probe.packetSize
  simp only [Action.yields_bind, Action.yields_get, Action.yields_pure]
  have empty : link.batch.Built link.state.selectCache [] := by
    rw [free.batch]
    exact Batch.built_empty _
  refine (Session.yields_queueAll empty).imp ?_ ?_
  · rintro _ next ⟨same, built⟩
    rw [same] at built ⊢
    refine (probe.flush_performs tracks config { link with batch := next.batch } free.isReady built
      plain free.agrees).imp ?_ ?_
    · rintro responses last ⟨-, ⟨ok, -, did⟩ | ⟨notOk, -, stopped⟩⟩
      · rw [Session.results_of_ok ok, Action.yields_ofExcept]
        exact { did with }
      · obtain ⟨error, failed⟩ := Session.results_of_not_ok notOk
        rw [failed, Action.yields_ofExcept]
        exact { stopped with }
    · intro error last stopped
      exact { stopped with }
  · rintro error next rfl
    exact { refused with batch := rfl }

end TruthfulProbe

end DebugProbe
