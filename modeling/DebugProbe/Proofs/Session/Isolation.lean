import DebugProbe.Proofs.Session.Barred
import DebugProbe.Proofs.Session.Invariant

/-!
# Batches are kept apart from other accesses

While accesses wait in the batch, every access that would be made at once is refused and leaves the
session as it is. Where none wait, a call may put accesses of its own into the batch, but however it
ends none of them is left there, unless to queue one was what it was for.
-/

namespace DebugProbe

variable {σ α : Type} [Transport σ]

namespace Session

section Emptying

variable {session : Session σ}

omit [Transport σ] in
/-- No access waits. -/
def Unqueued (session : Session σ) : Prop := session.link.batch = {}

/-- Where an exchange broke, the batch is dropped. -/
theorem unqueued_afterFailure (none : session.Unqueued) (broken : Bool) :
    (session.afterFailure broken).Unqueued := by
  cases broken with
  | true => rfl
  | false => exact none

/-- An operation leaves no access waiting if its part leaves none. -/
private theorem whole_unqueued {action : Action (Session σ) AccessError α} {done : Session σ → Prop}
    (leaves : action.Yields session (fun _ ↦ done) (fun _ ↦ Unqueued)) (operation : Operation) :
    (whole (operate operation action)).Yields session (fun _ ↦ done) (fun _ ↦ Unqueued) := by
  rw [yields_whole]
  exact leaves.imp (fun _ _ left ↦ left) fun _ _ left ↦ unqueued_afterFailure left _

/-- Accesses that spare a quiet link leave none waiting. -/
private theorem spares_unqueued {action : Action (Link σ) AccessError α}
    (spares : Link.Spares action) {link : Link σ} (quiet : link.Quiet) :
    (onLink action).Yields { session with link } (fun _ ↦ Unqueued) (fun _ ↦ Unqueued) := by
  rw [yields_onLink]
  refine (spares link quiet).imp ?_ ?_
  · rintro _ next ⟨⟨turns, went⟩, -⟩
    exact went.batch.trans quiet.batch
  · rintro _ next ⟨turns, went⟩
    exact went.batch.trans quiet.batch

private theorem register_unqueued {access : RegisterAddress → Action (Link σ) AccessError α}
    (spares : ∀ register, Link.Spares (access register))
    (named : Except AccessError RegisterAddress) {link : Link σ} (quiet : link.Quiet) :
    (Action.ofExcept named >>= fun register ↦ onLink (access register)).Yields
      { session with link } (fun _ ↦ Unqueued) (fun _ ↦ Unqueued) := by
  cases named with
  | ok register => exact spares_unqueued (spares register) quiet
  | error error => exact quiet.batch

variable (sound : session.Sound) (none : session.Unqueued)
include sound none

/-- What has to be put right is put right without the batch, and what follows begins on a quiet link
or is refused. -/
private theorem prepared_unqueued {action : Action (Session σ) AccessError α}
    {done : Session σ → Prop} (heeds : session.Heeds action)
    (weaker : ∀ next : Session σ, next.Unqueued → done next)
    (quietly : ∀ link : Link σ, link.Quiet →
      action.Yields { session with link } (fun _ ↦ done) (fun _ ↦ Unqueued)) :
    (prepare >>= fun _ ↦ action).Yields session (fun _ ↦ done) (fun _ ↦ Unqueued) := by
  rw [Action.yields_bind]
  cases connected : session.link.state.isConnected with
  | false =>
    unfold prepare
    simp only [Action.yields_bind, Action.yields_get, Action.yields_ite, connected]
    exact ⟨fun _ ↦ none, fun contra ↦ absurd rfl contra⟩
  | true =>
    refine (yields_prepare_connected sound connected).imp ?_ ?_
    · rintro _ next (⟨turns, link, prepared, rfl⟩ | ⟨rfl, cause, blocked⟩)
      · exact quietly link (prepared.quiet sound).1
      · refine (heeds.blocked cause blocked).imp ?_ ?_
        · rintro _ _ rfl
          exact weaker _ none
        · rintro _ _ rfl
          exact none
    · rintro _ next ⟨-, same⟩
      exact same.trans none

/-- An access leaves none waiting, whether it is refused, fails or succeeds. -/
private theorem access_unqueued {action : Session σ → Action (Session σ) AccessError α}
    (heeds : ∀ current, session.Heeds (action current))
    (quietly : ∀ (current : Session σ) (link : Link σ), link.Quiet →
      (action current).Yields { session with link } (fun _ ↦ Unqueued) (fun _ ↦ Unqueued))
    (operation : Operation) :
    (whole (operate operation (prepare >>= fun _ ↦ get >>= action))).Yields session
      (fun _ ↦ Unqueued) (fun _ ↦ Unqueued) :=
  whole_unqueued (prepared_unqueued sound none (heeds_get_bind heeds) (fun _ left ↦ left)
    fun link quiet ↦ Action.yields_bind.mpr (quietly _ link quiet)) operation

private theorem read_unqueued (operation : Operation)
    (named : Except AccessError RegisterAddress) :
    (whole (read operation named)).Yields session (fun _ ↦ Unqueued) (fun _ ↦ Unqueued) :=
  access_unqueued sound none (fun current ↦ heeds_read current.config.transfer named)
    (fun current _ ↦ register_unqueued (readRegister_spares current.config.transfer) named)
    operation

private theorem write_unqueued (operation : Operation)
    (named : Except AccessError RegisterAddress) (value : UInt32) :
    (whole (write operation named value)).Yields session (fun _ ↦ Unqueued) (fun _ ↦ Unqueued) :=
  access_unqueued sound none (fun current ↦ heeds_write current.config.transfer named value)
    (fun current _ ↦ register_unqueued
      (fun register ↦ writeRegister_spares current.config.transfer register value) named)
    operation

/-- An access that cannot be queued leaves none waiting. -/
private theorem queue_unqueued (access : RegisterAccess) :
    (whole (queue access)).Yields session (fun _ _ ↦ True) (fun _ ↦ Unqueued) := by
  have empty : session.link.batch.isEmpty = true := by
    rw [show session.link.batch = {} from none]
    rfl
  refine whole_unqueued ?_ _
  rw [Action.yields_bind, Action.yields_get, if_pos empty]
  refine prepared_unqueued sound none (heeds_queue empty access) (fun _ _ ↦ trivial)
    fun link quiet ↦ ?_
  rw [Action.yields_bind, yields_onProbe]
  show Action.Yields _ { session with link } _ _
  rw [yields_onLink, Link.yields_queue, Link.yields_checkReady]
  refine ⟨fun _ ↦ quiet.batch, fun _ _ ↦ quiet.batch, fun _ _ ↦ ?_⟩
  split
  · trivial
  · exact quiet.batch

/-- A call that does not queue an access leaves none waiting, and one that fails does not either. -/
theorem call_unqueued (call : SessionCall) :
    call.action.Yields session
      (fun _ next ↦ (∀ access, call ≠ .call (.queue access)) → next.Unqueued)
      (fun _ ↦ Unqueued) := by
  have leaving (leaves : call.action.Yields session (fun _ ↦ Unqueued) (fun _ ↦ Unqueued)) :
      call.action.Yields session
        (fun _ next ↦ (∀ access, call ≠ .call (.queue access)) → next.Unqueued)
        (fun _ ↦ Unqueued) :=
    leaves.imp (fun _ _ left _ ↦ left) fun _ _ left ↦ left
  cases call with
  | call asked =>
    cases asked with
    | connect hint =>
      refine leaving (Action.yields_map.mpr ((connect_parts_connects sound.blank hint).imp ?_ ?_))
      · rintro protocol next ⟨closing, idle, deeds, parts, succeeds⟩
        exact succeeds.quiet.batch
      · rintro error next (⟨closing, parts⟩ | ⟨closing, idle, deeds, parts, fails⟩)
        · exact parts.blank.batch
        · exact fails.blank.batch
    | disconnect =>
      exact leaving ((disconnect_parts sound.blank).imp
        (fun _ _ ⟨deeds, parts⟩ ↦ parts.blank.batch) fun _ _ ⟨deeds, parts⟩ ↦ parts.blank.batch)
    | readDp address => exact leaving (read_unqueued sound none _ _)
    | writeDp address value => exact leaving (write_unqueued sound none _ _ value)
    | readAp address => exact leaving (read_unqueued sound none _ _)
    | writeAp address value => exact leaving (write_unqueued sound none _ _ value)
    | readMemory address size =>
      exact leaving (access_unqueued sound none (fun _ ↦ heeds_readSpans _ _ _)
        (fun _ _ ↦ spares_unqueued (readSpans_spares _ _ _)) _)
    | writeMemory address data =>
      exact leaving (access_unqueued sound none (fun _ ↦ heeds_writeSpans _ _ _ data)
        (fun _ _ ↦ spares_unqueued (writeSpans_spares _ _ _ data)) _)
    | queue access =>
      exact (queue_unqueued sound none access).imp (fun _ _ _ other ↦ absurd rfl (other access))
        fun _ _ left ↦ left
    | flush =>
      refine leaving (whole_unqueued ?_ _)
      rw [Action.yields_bind, Action.yields_get, yields_onLink]
      refine (flush_still none _).imp ?_ ?_
      · rintro _ _ rfl
        exact none
      · rintro _ _ rfl
        exact none
    | clearStickyErrors =>
      refine leaving (whole_unqueued ?_ _)
      rw [yields_onLink]
      unfold Link.clearStickyErrors
      simp only [Action.yields_bind, Action.yields_get, Action.yields_ite, Link.yields_command,
        Link.yields_modifyState]
      exact ⟨fun _ ↦ none, fun _ ↦ Action.yields_iff.mpr ⟨fun _ _ _ ↦ none, fun _ _ _ ↦ none⟩⟩
    | abortTransfer =>
      refine leaving (whole_unqueued ?_ _)
      unfold Link.abortTransfer
      simp only [Action.yields_bind, Action.yields_attempt, yields_onLink, Action.yields_update,
        Link.yields_command, Action.yields_ofExcept]
      exact Action.yields_iff.mpr ⟨fun _ _ _ ↦ rfl, fun _ _ _ ↦ rfl⟩
  | _ =>
    refine leaving ((speaks_call rfl).imp ?_ ?_)
    · rintro _ _ ⟨deeds, transport, clock, capabilities, asked, rfl⟩
      exact none
    · rintro error _ ⟨deeds, last, ⟨transport, clock, capabilities, asked, same⟩, rfl⟩
      refine unqueued_afterFailure ?_ error.isBroken
      rw [same]
      exact none

omit [Transport σ] none in
/-- Accesses wait, or the batch is as it was at first. -/
theorem loaded_or_unqueued :
    session.link.batch.requests ≠ 0 ∧ session.Loaded ∨
      session.link.batch.requests = 0 ∧ session.Unqueued := by
  rcases sound.batch with none | loaded
  · exact .inr ⟨by rw [none], none⟩
  · obtain ⟨start, accesses, some, built⟩ := loaded.built
    refine .inl ⟨fun zero ↦ some ?_, loaded⟩
    rw [built.requests] at zero
    exact List.eq_nil_of_length_eq_zero zero

end Emptying

/-- While accesses wait, every access that would be made at once is refused, and the session stays
as it is, with nothing exchanged. Where none wait, none wait after a call that does not queue one,
nor after any that fails. -/
theorem Reached.isolated {session : Session (Recorded σ)} (reached : session.Reached) :
    (session.link.batch.requests ≠ 0 →
      ∀ (call : SessionCall) (operation : Operation), call.direct? = some operation →
        call.action.outcome session = (.error (.operation ⟨operation, .batchPending⟩), session)) ∧
    (session.link.batch.requests = 0 →
      ∀ call : SessionCall,
        (∀ access, call ≠ .call (.queue access)) ∨ (call.action.outcome session).1 ≠ .ok () →
        (call.action.outcome session).2.link.batch = {}) := by
  have sound := reached.sound
  refine ⟨fun some call operation asks ↦ ?_, fun zero call exempt ↦ ?_⟩
  · rcases loaded_or_unqueued sound with ⟨-, loaded⟩ | ⟨none, -⟩
    · exact (loaded.barred.refuses_direct asks).outcome
    · exact absurd none some
  · rcases loaded_or_unqueued sound with ⟨some, -⟩ | ⟨-, none⟩
    · exact absurd zero some
    · obtain ⟨succeeds, fails⟩ := Action.yields_iff.mp (call_unqueued sound none call)
      cases outcome : call.action.outcome session with
      | mk result next =>
        rw [outcome] at exempt
        cases result with
        | ok value => exact succeeds _ next outcome (exempt.resolve_right fun failed ↦ failed rfl)
        | error error => exact fails error next outcome

/-- A session over a simulated probe, as it is at first. -/
private def unused : Session (Recorded Simulator) := .new { inner := {} } {}

/-- A session in which one access waits. -/
private def awaiting : Session (Recorded Simulator) :=
  unused.after [.call (.connect none), .call (.queue (.read (.access 0 0xFC)))]

/-- A write to memory is refused while an access waits. An access that cannot be queued does not
wait. -/
theorem Reached.isolated_awaiting :
    awaiting.Reached ∧ awaiting.link.batch.requests = 1 ∧
      (SessionCall.call (.writeMemory 0 [1])).action.outcome awaiting =
        (.error (.operation ⟨.writeMemory 0 1, .batchPending⟩), awaiting) ∧
      unused.Reached ∧
      ((SessionCall.call (.queue (.read (.debug 4)))).action.outcome unused).1 ≠ .ok () ∧
      ((SessionCall.call (.queue (.read (.debug 4)))).action.outcome unused).2.link.batch =
        {} := by
  have fresh : unused.Reached := .new _ _
  have reached : awaiting.Reached := fresh.after _
  have waits : awaiting.link.batch.requests = 1 := by
    decide +kernel
  have refused :
      ((SessionCall.call (.queue (.read (.debug 4)))).action.outcome unused).1 ≠ .ok () := by
    decide +kernel
  exact ⟨reached, waits, reached.isolated.1 (by simp [waits]) _ _ rfl, fresh, refused,
    fresh.isolated.2 rfl _ (.inr refused)⟩

end Session

end DebugProbe
