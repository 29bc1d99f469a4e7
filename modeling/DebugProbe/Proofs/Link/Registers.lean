import DebugProbe.Proofs.Link.Flush
import DebugProbe.Proofs.Link.Performed

/-!
# Register accesses over a link

What a link does with register accesses, over a truthful probe and as long as what it believes of
SELECT is true: it makes the target perform them, all of them if it succeeds and the first ones if
it fails, and it believes nothing of SELECT that is not true.
-/

namespace DebugProbe

variable {σ τ : Type} [Transport σ]

namespace Link

variable (model : TargetModel τ) (select : τ → UInt32) (view : σ → τ)

/-- The link performed accesses. Of what it knows only the value of SELECT may have changed. -/
structure Did (ready : σ → Prop) (link : Link σ) (accesses : List RegisterAccess)
    (words : List (Option UInt32)) (next : Link σ) : Prop where
  isReady : ready next.transport
  packetSize : Transport.packetSize next.transport = Transport.packetSize link.transport
  performed : model.Performed select accesses (view link.transport) words (view next.transport)
  agrees : Select.Agrees next.state.selectCache (select (view next.transport))
  batch : next.batch = {}
  state : next.state = { link.state with selectCache := next.state.selectCache }

/-- The link gave up after it performed some of the accesses, from the first one on. -/
structure Stopped (ready broken : σ → Prop) (link : Link σ) (accesses : List RegisterAccess)
    (next : Link σ) : Prop where
  left : ready next.transport ∨ broken next.transport
  performed : ∃ part words, part <+: accesses ∧
    model.Performed select part (view link.transport) words (view next.transport)
  agrees : Select.Agrees next.state.selectCache (select (view next.transport))
  batch : next.batch = {}
  status : next.state.status = link.state.status
  known : next.state.selectCache = none ∨
    next.state = { link.state with selectCache := next.state.selectCache }

end Link

variable {model : TargetModel τ} {select : τ → UInt32} {view : σ → τ} {ready broken : σ → Prop}

theorem Select.Agrees.none (select : UInt32) : Select.Agrees none select := nofun

namespace Link

/-- A link between accesses: frames can be exchanged, no access waits, and what is believed of
SELECT is true. -/
structure Free (select : τ → UInt32) (view : σ → τ) (ready : σ → Prop) (link : Link σ) : Prop where
  isReady : ready link.transport
  batch : link.batch = {}
  agrees : Select.Agrees link.state.selectCache (select (view link.transport))

variable {link next last : Link σ} {accesses : List RegisterAccess}
  {words : List (Option UInt32)}

/-- A link that performed accesses is free for the next ones. -/
theorem Did.free (did : Did model select view ready link accesses words next) :
    Free select view ready next :=
  ⟨did.isReady, did.batch, did.agrees⟩

/-- A link that has nothing to do has done it. -/
theorem Free.did (free : Free select view ready link) :
    Did model select view ready link [] [] link :=
  ⟨free.isReady, rfl, .nil _, free.agrees, free.batch, rfl⟩

omit [Transport σ] in
/-- A link that does not even begin has performed nothing. -/
theorem Free.stopped (free : Free select view ready link) (accesses : List RegisterAccess) :
    Stopped model select view ready broken link accesses link :=
  ⟨.inl free.isReady, ⟨[], [], List.nil_prefix, .nil _⟩, free.agrees, free.batch, rfl, .inr rfl⟩

/-- Accesses are performed one after the other. -/
theorem Did.append (did : Did model select view ready link accesses words next)
    {others : List RegisterAccess} {later : List (Option UInt32)}
    (again : Did model select view ready next others later last) :
    Did model select view ready link (accesses ++ others) (words ++ later) last where
  isReady := again.isReady
  packetSize := again.packetSize.trans did.packetSize
  performed := did.performed.append again.performed
  agrees := again.agrees
  batch := again.batch
  state := by rw [again.state, did.state]

/-- A link that gives up later has performed what it performed before. -/
theorem Did.stopped (did : Did model select view ready link accesses words next)
    {others : List RegisterAccess}
    (stopped : Stopped model select view ready broken next others last) :
    Stopped model select view ready broken link (accesses ++ others) last where
  left := stopped.left
  performed := by
    obtain ⟨part, later, before, performed⟩ := stopped.performed
    exact ⟨accesses ++ part, words ++ later, (List.prefix_append_right_inj accesses).mpr before,
      did.performed.append performed⟩
  agrees := stopped.agrees
  batch := stopped.batch
  status := by rw [stopped.status, did.state]
  known := by
    rcases stopped.known with unknown | same
    · exact .inl unknown
    · refine .inr ?_
      rw [same, did.state]

omit [Transport σ] in
/-- A link that gave up on some accesses gave up on more than these. -/
theorem Stopped.append (stopped : Stopped model select view ready broken link accesses next)
    (others : List RegisterAccess) :
    Stopped model select view ready broken link (accesses ++ others) next where
  left := stopped.left
  performed := by
    obtain ⟨part, words, before, performed⟩ := stopped.performed
    exact ⟨part, words, before.trans (List.prefix_append accesses others), performed⟩
  agrees := stopped.agrees
  batch := stopped.batch
  status := stopped.status
  known := stopped.known

end Link

/-- A flush performs the accesses of the batch, all of them exactly if they are all answered OK. -/
theorem TruthfulProbe.flush_performs (probe : TruthfulProbe model view ready broken)
    (tracks : model.TracksSelect select) (config : TransferConfig) (link : Link σ)
    (isReady : ready link.transport) {accesses : List RegisterAccess}
    (built : link.batch.Built link.state.selectCache accesses)
    (plain : ∀ access ∈ accesses, access.Plain)
    (agrees : Select.Agrees link.state.selectCache (select (view link.transport))) :
    (Link.flush config).Yields link
      (fun responses next ↦ responses.length = accesses.length ∧
        ((∀ response ∈ responses, response.status = .ok) ∧
            next.state.selectCache = selectAfter link.state.selectCache link.batch.entries ∧
            Link.Did model select view ready link accesses
              (responses.map AccessResponse.value) next ∨
          (∃ response ∈ responses, response.status ≠ .ok) ∧ ready next.transport ∧
            Link.Stopped model select view ready broken link accesses next))
      (fun _ next ↦ Link.Stopped model select view ready broken link accesses next) := by
  refine (probe.flush config isReady).imp ?_ ?_
  · rintro responses next ⟨active, clear, isReady, size, data, carries, outcome⟩
    have le := carries.1
    rw [built.entries] at carries outcome
    obtain ⟨performed, believed⟩ := carries.performed tracks plain agrees
    have first := Batch.index_completed (Batch.entriesFrom link.state.selectCache 0 accesses) data
    rcases outcome with ⟨all, rfl, after⟩ | ⟨failure, sticky, pending, less, kind, rfl, after⟩
    · rw [all, List.take_length] at first believed
      rw [Batch.origins_entriesFrom] at first
      have count := congrArg List.length first
      rw [List.length_map, List.length_range'] at count
      rw [count, List.take_length] at performed
      refine ⟨count, .inl ⟨fun _ member ↦ Batch.status_completed member, ?_⟩⟩
      rw [after] at isReady size performed believed ⊢
      rw [built.entries]
      exact ⟨rfl, isReady, size, performed, believed, rfl, rfl⟩
    · have second := Batch.index_failed failure
        ((Batch.entriesFrom link.state.selectCache 0 accesses).drop data.length)
      have count := congrArg List.length
        (Batch.origins_entriesFrom link.state.selectCache 0 accesses)
      rw [← List.take_append_drop data.length (Batch.entriesFrom link.state.selectCache 0 accesses),
        List.filterMap_append, ← first, ← second, ← List.map_append, List.length_map,
        List.length_range'] at count
      refine ⟨count, .inr ⟨?_, isReady, ?_⟩⟩
      · have notOk : failure ≠ .ok := by rcases kind with rfl | rfl | rfl <;> nofun
        cases others : Batch.failed failure
          ((Batch.entriesFrom link.state.selectCache 0 accesses).drop data.length) with
        | nil =>
          rw [others, ← built.entries] at second
          have done := List.drop_eq_nil_iff.mp (built.drop_eq_nil second.symm)
          rw [← built.entries] at less
          omega
        | cons response rest =>
          have member : response ∈ Batch.failed failure
              ((Batch.entriesFrom link.state.selectCache 0 accesses).drop data.length) := by
            rw [others]
            exact List.mem_cons_self
          exact ⟨response, List.mem_append_right _ List.mem_cons_self,
            Batch.status_failed_ne_ok notOk member⟩
      · rw [after] at isReady performed ⊢
        exact ⟨.inl isReady, ⟨_, _, List.take_prefix _ _, performed⟩, .none _, rfl, rfl, .inl rfl⟩
  · rintro error next (⟨-, rfl⟩ | ⟨lost, ⟨-, -, left, ⟨cache, same⟩, data, carries⟩, rfl⟩)
    · exact ⟨.inl isReady, ⟨[], [], List.nil_prefix, .nil _⟩, agrees, rfl, rfl, .inr rfl⟩
    · rw [built.entries] at carries
      obtain ⟨performed, -⟩ := carries.performed tracks plain agrees
      refine ⟨left, ⟨_, _, List.take_prefix _ _, performed⟩, .none _, ?_, ?_, .inl rfl⟩
      · rw [same]
        rfl
      · rw [same]
        rfl

/-- A single access is performed, or the link gives up. -/
theorem TruthfulProbe.run (probe : TruthfulProbe model view ready broken)
    (tracks : model.TracksSelect select) (config : TransferConfig) {link : Link σ}
    (free : Link.Free select view ready link) {access : RegisterAccess} (plain : access.Plain) :
    (Link.run config access).Yields link
      (fun word next ↦ Link.Did model select view ready link [access] [word] next ∧
        next.state.selectCache = selectAfter link.state.selectCache
          (Batch.entriesFor link.state.selectCache access 0))
      (fun _ next ↦ Link.Stopped model select view ready broken link [access] next) := by
  have refused : Link.Stopped model select view ready broken link [access] link :=
    free.stopped [access]
  unfold Link.run
  simp only [Action.yields_bind]
  rw [Link.yields_checkNoneQueued]
  refine ⟨fun _ ↦ refused, fun _ ↦ ?_⟩
  rw [Link.yields_onProbe]
  unfold Probe.packetSize
  simp only [Action.yields_bind, Action.yields_get, Action.yields_pure]
  rw [Link.yields_queue, Link.yields_checkReady]
  refine ⟨fun _ ↦ refused, fun _ _ ↦ refused, fun _ _ ↦ ?_⟩
  dsimp only
  split
  · next batch pushed =>
    have built : batch.Built link.state.selectCache [access] := by
      rw [free.batch] at pushed
      exact (Batch.built_empty link.state.selectCache).push (fun _ ↦ rfl) pushed
    have plain : ∀ other ∈ [access], other.Plain := by
      intro other member
      rw [List.mem_singleton.mp member]
      exact plain
    refine (probe.flush_performs tracks config { link with batch } free.isReady built plain
      free.agrees).imp ?_ ?_
    · rintro responses next ⟨count, outcome⟩
      obtain ⟨response, rfl⟩ := List.length_eq_one_iff.mp count
      dsimp only
      rcases outcome with ⟨ok, known, did⟩ | ⟨⟨failed, member, notOk⟩, isReady, stopped⟩
      · rw [AccessResponse.result_of_ok (ok response List.mem_cons_self), Action.yields_ofExcept]
        rw [built.entries, Batch.entriesFrom, Batch.entriesFrom, List.append_nil] at known
        exact ⟨{ did with }, known⟩
      · rw [List.mem_singleton.mp member] at notOk
        rw [AccessResponse.result_of_not_ok notOk, Action.yields_ofExcept]
        exact { stopped with }
    · intro error next stopped
      exact { stopped with }
  · exact refused

end DebugProbe
