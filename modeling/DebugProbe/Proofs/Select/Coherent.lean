import DebugProbe.Proofs.Probe.Steady
import DebugProbe.Proofs.Session.Steps

/-!
# Sessions that know what SELECT holds

A session is coherent if what it believes of SELECT is true, if it believes nothing while the line
has to be reset, and if its batch was built on what it believes. Each operation of a session keeps
it coherent, and carries out accesses that were asked for and no others.
-/

namespace DebugProbe

variable {σ : Type} [Transport σ]

open SelectTrace (Quiet Unasked)

namespace Session

variable (view : σ → SelectTrace) (ready : σ → Prop)

/-- What a session believes is true while some accesses wait in its batch. -/
structure Coherent (queued : List RegisterAccess) (session : Session σ) : Prop where
  isReady : ready session.link.transport
  agrees : Select.Agrees session.link.state.selectCache (view session.link.transport).select
  unknown : session.link.state.lineResetPending = true → session.link.state.selectCache = none
  built : session.link.batch.Built session.link.state.selectCache queued
  plain : ∀ access ∈ queued, access.Plain
  empty : queued = [] → session.link.batch = {}
  clear : queued ≠ [] → session.Clear

/-- An operation left a coherent session, with as many accesses waiting as its batch holds, and
carried out accesses that `asked` accepts. -/
structure Settled (queued : List RegisterAccess) (asked : List RegisterAccess → Prop)
    (session next : Session σ) : Prop where
  coherent : next.Coherent view ready (queued.take next.link.batch.requests)
  logged : ∃ accesses, asked accesses ∧
    (view session.link.transport).Logged accesses (view next.link.transport)

variable {view ready} {queued : List RegisterAccess} {asked : List RegisterAccess → Prop}
  {session next last : Session σ}

omit [Transport σ] in
/-- The batch of a coherent session holds all accesses that wait. -/
theorem Coherent.take (coherent : session.Coherent view ready queued) :
    session.Coherent view ready (queued.take session.link.batch.requests) := by
  rw [coherent.built.requests, List.take_length]
  exact coherent

omit [Transport σ] in
/-- Accesses wait only while the session is connected. -/
theorem Coherent.none_waits (coherent : session.Coherent view ready queued)
    (closed : ¬session.link.state.isConnected = true) : queued = [] := by
  cases queued with
  | nil => rfl
  | cons first rest => exact absurd (coherent.clear nofun).connected closed

omit [Transport σ] in
/-- A session in which no access waits can do accesses. -/
theorem Coherent.free (coherent : session.Coherent view ready []) :
    Link.Free SelectTrace.select view ready session.link :=
  ⟨coherent.isReady, coherent.empty rfl, coherent.agrees⟩

omit [Transport σ] in
/-- A session in which no access waits is coherent if what it believes is true. -/
theorem Coherent.of_free (free : Link.Free SelectTrace.select view ready session.link)
    (unknown : session.link.state.lineResetPending = true →
      session.link.state.selectCache = none) :
    session.Coherent view ready [] where
  isReady := free.isReady
  agrees := free.agrees
  unknown := unknown
  built := by
    rw [free.batch]
    exact Batch.built_empty _
  plain := nofun
  empty _ := free.batch
  clear some := absurd rfl some

omit [Transport σ] in
/-- Where no access waits, an operation leaves none. -/
theorem Coherent.settled (coherent : next.Coherent view ready []) {accesses : List RegisterAccess}
    (isAsked : asked accesses)
    (logged : (view session.link.transport).Logged accesses (view next.link.transport)) :
    Settled view ready queued asked session next := by
  refine ⟨?_, accesses, isAsked, logged⟩
  rw [coherent.empty rfl]
  exact coherent

omit [Transport σ] in
/-- What is carried out is accepted by more, too. -/
theorem Settled.imp {accepted : List RegisterAccess → Prop}
    (settled : session.Settled view ready queued asked next)
    (accepts : ∀ accesses, asked accesses → accepted accesses) :
    session.Settled view ready queued accepted next := by
  obtain ⟨coherent, accesses, isAsked, logged⟩ := settled
  exact ⟨coherent, accesses, accepts accesses isAsked, logged⟩

omit [Transport σ] in
/-- What waits after an operation waited before it. -/
theorem Settled.more (settled : session.Settled view ready queued asked next)
    (others : List RegisterAccess) : session.Settled view ready (queued ++ others) asked next := by
  obtain ⟨coherent, logged⟩ := settled
  have count := coherent.built.requests
  rw [List.length_take] at count
  refine ⟨?_, logged⟩
  rw [List.take_append_of_le_length (by omega)]
  exact coherent

/-- A session stays coherent while its link performs accesses. -/
theorem Coherent.of_did {before link : Link σ} (calm : before.state.lineResetPending = false)
    {accesses : List RegisterAccess} {words : List (Option UInt32)}
    (did : Link.Did SelectTrace.model SelectTrace.select view ready before accesses words link) :
    Coherent view ready [] ({ session with link } : Session σ) := by
  refine .of_free did.free fun pending ↦ ?_
  change link.state.lineResetPending = true at pending
  rw [did.state, calm] at pending
  nomatch pending

omit [Transport σ] in
/-- A session stays coherent if its link gives up on accesses. -/
theorem Coherent.of_stopped {before link : Link σ} (calm : before.state.lineResetPending = false)
    {accesses : List RegisterAccess}
    (stopped : Link.Stopped SelectTrace.model SelectTrace.select view ready ready before accesses
      link) :
    Coherent view ready [] ({ session with link } : Session σ) := by
  refine .of_free ⟨stopped.left.elim id id, stopped.batch, stopped.agrees⟩ fun pending ↦ ?_
  change link.state.lineResetPending = true at pending
  rcases stopped.known with unknown | same
  · exact unknown
  · rw [same, calm] at pending
    nomatch pending

omit [Transport σ] in
/-- A session stays coherent as long as nothing happens but that sticky errors are cleared. -/
theorem Coherent.of_quiet (coherent : session.Coherent view ready queued) {link : Link σ}
    (sticky : Bool) (quiet : Quiet view ready (view session.link.transport) link.transport)
    (fewer : sticky = true → session.link.state.stickyError = true)
    (same : link = { session.link with
      transport := link.transport, state := { session.link.state with stickyError := sticky } }) :
    Coherent view ready queued ({ session with link } : Session σ) := by
  rw [same]
  constructor
  · exact quiet.1
  · show Select.Agrees session.link.state.selectCache (view link.transport).select
    rw [quiet.2]
    exact coherent.agrees
  · exact coherent.unknown
  · exact coherent.built
  · exact coherent.plain
  · exact coherent.empty
  · intro some
    obtain ⟨connected, clear, calm⟩ := coherent.clear some
    refine ⟨connected, ?_, calm⟩
    cases sticky with
    | false => rfl
    | true => exact absurd (fewer rfl) (Bool.eq_false_iff.mp clear)

end Session

variable {view : σ → SelectTrace} {ready : σ → Prop}

namespace SteadyProbe

variable (steady : SteadyProbe view ready) {queued : List RegisterAccess}
  {asked : List RegisterAccess → Prop} {session next : Session σ}
include steady

/-- A session that gives the link up believes nothing and has no access waiting. -/
theorem abandon (isReady : ready session.link.transport) :
    session.abandon.Coherent view ready [] ∧
      view session.abandon.link.transport = view session.link.transport := by
  have quiet : SelectTrace.Quiet view ready (view session.link.transport) session.link.transport :=
    ⟨isReady, rfl⟩
  have drained := steady.drain quiet
  exact ⟨.of_free ⟨drained.1, rfl, .none _⟩ nofun, drained.2⟩

/-- Giving the link up after a failure keeps a session coherent. -/
theorem afterFailure (settled : session.Settled view ready queued asked next) (broken : Bool) :
    session.Settled view ready queued asked (next.afterFailure broken) := by
  unfold Session.afterFailure
  split
  · obtain ⟨coherent, same⟩ := steady.abandon settled.coherent.isReady
    obtain ⟨accesses, isAsked, logged⟩ := settled.logged
    refine coherent.settled isAsked ?_
    rw [same]
    exact logged
  · exact settled

/-- An operation of a session whose action leaves a coherent session does so itself. -/
theorem operate {α : Type} {operation : Operation} {action : Action (Session σ) AccessError α}
    {done : α → Session σ → Prop}
    (settles : action.Yields session done fun _ ↦ session.Settled view ready queued asked) :
    (Session.operate operation action).Yields session done
      (fun _ ↦ session.Settled view ready queued asked) := by
  rw [Session.yields_operate]
  exact settles.imp (fun _ _ settled ↦ settled)
    (fun error _ settled ↦ steady.afterFailure settled error.isBroken)

end SteadyProbe

end DebugProbe
