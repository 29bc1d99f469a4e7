import DebugProbe.Proofs.Probe.Stopping
import Mathlib.Data.List.Forall2

/-!
# Steps performed one after the other

Setting up a port and waking a line take frames in a fixed order, each of which has to be accepted
before the next one is written. An action that performs such steps has put them all to the probe if
it succeeds; if it fails it has put the first ones to it, all but the last of which were accepted.
-/

namespace DebugProbe

/-- The reply grants what was asked for. -/
def Request.Accepts : (request : Request) → request.Response → Prop
  | connect .swd, reply => reply = .swd
  | connect .jtag, reply => reply = .jtag
  | connect .default, reply => reply ≠ .failed
  | resetTarget, reply => reply.status = .ok
  | jtagScan _, reply => reply.status = .ok
  | disconnect, status | writeAbort _ _, status | clock _, status | lineSequence _, status
  | swdConfigure _, status | jtagConfigure _, status | transferConfigure _, status
  | enterBootloader, status | reboot, status => status = .ok
  | _, _ => True

namespace Turn

/-- The exchange was answered, and what was asked for is granted. -/
def Accepted (turn : Turn) : Prop :=
  ∃ reply, turn.result = .ok reply ∧ turn.request.Accepts reply

theorem Accepted.isOk {turn : Turn} (accepted : turn.Accepted) : turn.result.isOk = true := by
  obtain ⟨reply, result, -⟩ := accepted
  rw [result]
  rfl

/-- The exchanges took all the steps in order, and each was accepted. -/
structure Follow (steps : List (Request → Prop)) (turns : List Turn) : Prop where
  requests : List.Forall₂ (fun step turn ↦ step turn.request) steps turns
  accepted : ∀ turn ∈ turns, turn.Accepted

/-- The exchanges took the first steps in order, and went on only as long as they were accepted. -/
structure Take (steps : List (Request → Prop)) (turns : List Turn) : Prop where
  requests : ∃ taken, taken <+: steps ∧
    List.Forall₂ (fun step turn ↦ step turn.request) taken turns
  accepted : ∀ turn ∈ turns.dropLast, turn.Accepted

variable {steps more : List (Request → Prop)} {turns later : List Turn}

theorem follow_nil : Follow [] [] := ⟨.nil, List.forall_mem_nil _⟩

theorem take_nil (steps : List (Request → Prop)) : Take steps [] :=
  ⟨⟨[], List.nil_prefix, .nil⟩, List.forall_mem_nil _⟩

theorem Follow.take (follow : Follow steps turns) : Take steps turns :=
  ⟨⟨steps, List.prefix_rfl, follow.requests⟩,
    fun turn member ↦ follow.accepted turn (List.dropLast_subset _ member)⟩

theorem follow_singleton {step : Request → Prop} {turn : Turn} (isStep : step turn.request)
    (accepted : turn.Accepted) : Follow [step] [turn] :=
  ⟨.cons isStep .nil, List.forall_mem_singleton.mpr accepted⟩

theorem take_singleton {step : Request → Prop} {turn : Turn} (isStep : step turn.request)
    (more : List (Request → Prop)) : Take (step :: more) [turn] :=
  ⟨⟨[step], List.prefix_append [step] more, .cons isStep .nil⟩, List.forall_mem_nil _⟩

/-- A single step is a single exchange. -/
theorem Follow.exists_turn {step : Request → Prop} (follow : Follow [step] turns) :
    ∃ turn, turns = [turn] ∧ step turn.request ∧ turn.Accepted := by
  obtain ⟨turn, rest, isStep, none, rfl⟩ := List.forall₂_cons_left_iff.mp follow.requests
  obtain rfl := List.forall₂_nil_left_iff.mp none
  exact ⟨turn, rfl, isStep, follow.accepted turn List.mem_cons_self⟩

theorem Follow.append (first : Follow steps turns) (second : Follow more later) :
    Follow (steps ++ more) (turns ++ later) :=
  ⟨List.rel_append first.requests second.requests, fun turn member ↦
    (List.mem_append.mp member).elim (first.accepted turn) (second.accepted turn)⟩

/-- Further steps are taken after those that were all accepted. -/
theorem Take.prepend (second : Take more later) (first : Follow steps turns) :
    Take (steps ++ more) (turns ++ later) where
  requests := by
    obtain ⟨taken, isPrefix, requests⟩ := second.requests
    exact ⟨steps ++ taken, (List.prefix_append_right_inj steps).mpr isPrefix,
      List.rel_append first.requests requests⟩
  accepted := by
    intro turn member
    cases later with
    | nil =>
      rw [List.append_nil] at member
      exact first.accepted turn (List.dropLast_subset _ member)
    | cons next rest =>
      rw [List.dropLast_append_of_ne_nil (List.cons_ne_nil next rest)] at member
      exact (List.mem_append.mp member).elim (first.accepted turn) (second.accepted turn)

/-- Steps that were not reached do not matter. -/
theorem Take.weaken (take : Take steps turns) (more : List (Request → Prop)) :
    Take (steps ++ more) turns := by
  obtain ⟨taken, isPrefix, requests⟩ := take.requests
  exact ⟨⟨taken, isPrefix.trans (List.prefix_append _ _), requests⟩, take.accepted⟩

/-- An exchange that was not accepted is the last one. -/
theorem Take.exists_front (take : Take steps turns) {turn : Turn} (member : turn ∈ turns)
    (refused : ¬turn.Accepted) :
    ∃ front, turns = front ++ [turn] ∧ ∀ other ∈ front, other.Accepted := by
  obtain rfl | ⟨front, last, rfl⟩ := turns.eq_nil_or_concat'
  · nomatch member
  · have accepted := take.accepted
    rw [List.dropLast_concat] at accepted
    rcases List.mem_append.mp member with early | late
    · exact absurd (accepted turn early) refused
    · rw [List.mem_singleton.mp late]
      exact ⟨front, rfl, accepted⟩

/-- Every exchange took some step. -/
theorem Take.exists_step (take : Take steps turns) {turn : Turn} (member : turn ∈ turns) :
    ∃ step ∈ steps, step turn.request := by
  obtain ⟨taken, isPrefix, requests⟩ := take.requests
  have among : ∃ step ∈ taken, step turn.request := by
    clear isPrefix take
    induction requests with
    | nil => nomatch member
    | @cons step other taken turns isStep _ ih =>
      rcases List.mem_cons.mp member with rfl | later
      · exact ⟨step, List.mem_cons_self, isStep⟩
      · obtain ⟨found, isTaken, holds⟩ := ih later
        exact ⟨found, List.mem_cons_of_mem step isTaken, holds⟩
  obtain ⟨step, isTaken, holds⟩ := among
  exact ⟨step, isPrefix.subset isTaken, holds⟩

end Turn

variable {σ : Type} [Transport σ]

/-- A command is one exchange, and a command that fails got no answer. -/
theorem Probe.yields_request (request : Request) (state : σ) :
    (send request).Yields state
      (fun reply next ↦ ∃ written, Turn.Leads ⟨request, written, .ok reply⟩ state next)
      (fun error next ↦ error.isBroken = true ∧
        ∃ written cause, Turn.Leads ⟨request, written, .error cause⟩ state next) := by
  unfold send
  rw [Action.yields_mapError]
  exact yields_turn.imp (fun _ _ leads ↦ leads)
    fun error _ ⟨written, leads⟩ ↦ ⟨rfl, written, error, leads⟩

namespace Action

variable {α β : Type} {steps more : List (Request → Prop)}

/-- The action puts the steps to the probe one after the other, as long as each is accepted. It
fails because an exchange broke exactly if one of them got no answer. -/
def Performs (steps : List (Request → Prop)) (action : Action σ CommandError α) : Prop :=
  ∀ state, action.Yields state
    (fun _ next ↦ ∃ turns, Turn.Follow steps turns ∧ Conversation state (turns.map .turn) next)
    (fun error next ↦ ∃ turns, Turn.Take steps turns ∧
      Conversation state (turns.map .turn) next ∧
        (error.isBroken = false ↔ ∀ turn ∈ turns, turn.result.isOk = true))

theorem performs_pure (value : α) :
    (pure value : Action σ CommandError α).Performs [] :=
  fun state ↦ ⟨[], Turn.follow_nil, .nil state⟩

/-- Steps that are not taken at all are no failure of the probe. -/
theorem performs_throw {error : CommandError} (unbroken : error.isBroken = false)
    (steps : List (Request → Prop)) : (throw error : Action σ CommandError α).Performs steps :=
  fun state ↦
    ⟨[], Turn.take_nil steps, .nil state, fun _ ↦ List.forall_mem_nil _, fun _ ↦ unbroken⟩

/-- The steps of the second action follow those of the first one. -/
theorem Performs.bind {action : Action σ CommandError α} {next : α → Action σ CommandError β}
    (first : action.Performs steps) (second : ∀ value, (next value).Performs more) :
    (action >>= next).Performs (steps ++ more) := by
  intro state
  rw [yields_bind]
  refine (first state).imp ?_ ?_
  · rintro value middle ⟨turns, follow, before⟩
    have answered : ∀ turn ∈ turns, turn.result.isOk = true :=
      fun turn member ↦ (follow.accepted turn member).isOk
    refine (second value middle).imp ?_ ?_
    · rintro _ last ⟨later, follows, after⟩
      refine ⟨turns ++ later, follow.append follows, ?_⟩
      rw [List.map_append]
      exact before.append after
    · rintro error last ⟨later, take, after, unbroken⟩
      refine ⟨turns ++ later, take.prepend follow, ?_, ?_⟩
      · rw [List.map_append]
        exact before.append after
      · rw [unbroken, List.forall_mem_append]
        exact ⟨fun rest ↦ ⟨answered, rest⟩, And.right⟩
  · rintro error middle ⟨turns, take, before, unbroken⟩
    exact ⟨turns, take.weaken more, before, unbroken⟩

/-- An action whose answer is not used performs the same steps. -/
theorem Performs.bind_pure {action : Action σ CommandError α} {f : α → β}
    (performs : action.Performs steps) :
    (action >>= fun value ↦ pure (f value)).Performs steps := by
  rw [← List.append_nil steps]
  exact performs.bind fun value ↦ performs_pure (f value)

end Action

namespace Probe

/-- A command that is answered with a status is one step. -/
theorem performs_accept (request : Request) (status : request.Response → Status)
    (rejection : Rejection) {step : Request → Prop} (isStep : step request)
    (accepts : ∀ reply, status reply = .ok → request.Accepts reply) :
    (send request >>= fun reply ↦ accept (status reply) rejection).Performs (σ := σ) [step] := by
  intro state
  rw [Action.yields_bind]
  refine (yields_request request state).imp ?_ ?_
  · rintro reply next ⟨written, leads⟩
    have conversation : Conversation state [.turn ⟨request, written, .ok reply⟩] next :=
      .turn leads (.nil next)
    cases answer : status reply with
    | ok =>
      exact ⟨[_], Turn.follow_singleton isStep ⟨reply, rfl, accepts reply answer⟩, conversation⟩
    | error =>
      exact ⟨[_], Turn.take_singleton isStep [], conversation,
        fun _ ↦ List.forall_mem_singleton.mpr rfl, fun _ ↦ rfl⟩
  · rintro error next ⟨isBroken, written, cause, leads⟩
    refine ⟨[_], Turn.take_singleton isStep [], .turn leads (.nil next), ?_⟩
    rw [isBroken, List.forall_mem_singleton]
    exact ⟨nofun, nofun⟩

theorem setClock_performs (hertz : UInt32) :
    (setClock hertz).Performs (σ := σ) [(· = .clock hertz)] :=
  performs_accept (.clock hertz) id _ rfl fun _ ↦ id

theorem configureTransfers_performs (settings : TransferSettings) :
    (configureTransfers settings).Performs (σ := σ) [(· = .transferConfigure settings)] :=
  performs_accept (.transferConfigure settings) id _ rfl fun _ ↦ id

theorem configureSwd_performs (settings : SwdSettings) :
    (configureSwd settings).Performs (σ := σ) [(· = .swdConfigure settings)] :=
  performs_accept (.swdConfigure settings) id _ rfl fun _ ↦ id

/-- A chain that does not fit into the command is not described at all. -/
theorem configureJtag_performs (irLengths : Bytes) :
    (fitting (JtagChain.ofLengths? irLengths) >>= configureJtag).Performs (σ := σ)
      [fun request ↦ ∃ chain, chain.irLengths = irLengths ∧ request = .jtagConfigure chain] := by
  cases fits : JtagChain.ofLengths? irLengths with
  | none => exact Action.performs_throw rfl _
  | some chain =>
    have same : chain.irLengths = irLengths := by
      unfold JtagChain.ofLengths? at fits
      split at fits
      · rw [← Option.some.inj fits]
      · nomatch fits
    exact performs_accept (.jtagConfigure chain) id _ ⟨chain, same, rfl⟩ fun _ ↦ id

theorem writeAbort_performs (dapIndex : UInt8) (value : UInt32) :
    (writeAbort dapIndex value).Performs (σ := σ) [(· = .writeAbort dapIndex value)] :=
  performs_accept (.writeAbort dapIndex value) id _ rfl fun _ ↦ id

end Probe

end DebugProbe
