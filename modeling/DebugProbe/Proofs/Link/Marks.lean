import DebugProbe.Proofs.Link.Steps
import DebugProbe.Proofs.Probe.Performing

/-!
# What accesses leave behind

A target that answers FAULT has to have its sticky errors cleared, and one that does not answer
has to have its line reset. A link remembers the one or the other from the status of the last
access, which ends whatever the access was a part of. So accesses go out over a quiet link, and a
link that is quiet after them only learned what SELECT holds.
-/

namespace DebugProbe

/-- The target refused an access, or there was a protocol error: it refuses all others until its
sticky errors are cleared. -/
def TransferStatus.IsFault (status : TransferStatus) : Prop :=
  status.protocolError = true ∨ status.acknowledge = .fault

/-- The target did not answer, and the line has to be reset. -/
def TransferStatus.IsSilent (status : TransferStatus) : Prop :=
  status.protocolError = false ∧ status.acknowledge = .noAck

/-- Whether the request accesses registers of a target. -/
def Request.isAccess : Request → Bool
  | transfer _ | transferBlock _ => true
  | _ => false

namespace Turn

/-- The status of an access that was answered. -/
def status? : Turn → Option TransferStatus
  | ⟨.transfer _, _, .ok reply⟩ => some reply.status
  | ⟨.transferBlock _, _, .ok reply⟩ => some reply.status
  | _ => none

/-- The transfer was the last one of a frame that was carried out as a whole, and gave the value. -/
def Carried (transfer : Transfer) (value : Option UInt32) (turn : Turn) : Prop :=
  ∃ request written reply, turn = ⟨.transfer request, written, .ok reply⟩ ∧
    reply.status.isOk = true ∧ reply.count = request.transfers.length ∧
    request.transfers.getLast? = some transfer ∧ reply.data.getLast? = some value

end Turn

/-- What accesses make of a state: they may learn what SELECT holds, and the status of the last one
may raise a condition. -/
inductive LinkState.Marked (state : LinkState) (turns : List Turn) : LinkState → Prop
  | calm (cache : Option Select) : Marked state turns { state with selectCache := cache }
  | fault {turn : Turn} {status : TransferStatus} (last : turns.getLast? = some turn)
      (answered : turn.status? = some status) (isFault : status.IsFault) :
      Marked state turns { state with selectCache := none, stickyError := true }
  | silent {turn : Turn} {status : TransferStatus} (last : turns.getLast? = some turn)
      (answered : turn.status? = some status) (isSilent : status.IsSilent) :
      Marked state turns { state with selectCache := none, lineResetPending := true }

namespace LinkState.Marked

variable {state middle last : LinkState} {turns later : List Turn}

/-- Whatever is known of SELECT may be forgotten. -/
theorem forget (marked : state.Marked turns last) :
    state.Marked turns { last with selectCache := none } := by
  cases marked with
  | calm cache => exact .calm none
  | fault last answered isFault => exact .fault last answered isFault
  | silent last answered isSilent => exact .silent last answered isSilent

/-- Nothing but what is known of SELECT may have changed before. -/
theorem prepend (marked : middle.Marked later last) {cache : Option Select}
    (calm : middle = { state with selectCache := cache }) (turns : List Turn) :
    state.Marked (turns ++ later) last := by
  subst calm
  cases marked with
  | calm cache => exact .calm cache
  | fault last answered isFault =>
    refine .fault ?_ answered isFault
    rw [List.getLast?_append, last]
    rfl
  | silent last answered isSilent =>
    refine .silent ?_ answered isSilent
    rw [List.getLast?_append, last]
    rfl

theorem status (marked : state.Marked turns last) : last.status = state.status := by
  cases marked <;> rfl

theorem dapIndex (marked : state.Marked turns last) : last.dapIndex = state.dapIndex := by
  cases marked <;> rfl

end LinkState.Marked

namespace Link

variable {σ : Type} [Transport σ]

/-- No access waits, and no condition has to be dealt with before the next one. -/
structure Quiet (link : Link σ) : Prop where
  batch : link.batch = {}
  sticky : link.state.stickyError = false
  pending : link.state.lineResetPending = false

/-- Requests of a kind were put to the probe, and what came of it is noted. -/
structure Went (sends : Request → Prop) (link : Link σ) (turns : List Turn) (next : Link σ) :
    Prop where
  conversation : Conversation link.transport (turns.map .turn) next.transport
  requests : ∀ turn ∈ turns, sends turn.request
  batch : next.batch = link.batch
  state : link.state.Marked turns next.state

variable {sends other : Request → Prop} {link middle next : Link σ} {turns later : List Turn}

omit [Transport σ] in
/-- A link that is quiet after it was marked only learned what SELECT holds. -/
theorem Quiet.calm (still : next.Quiet)
    (marked : link.state.Marked turns next.state) :
    ∃ cache, next.state = { link.state with selectCache := cache } := by
  have clear := still.sticky
  have done := still.pending
  generalize next.state = state at marked clear done
  cases marked with
  | calm cache => exact ⟨cache, rfl⟩
  | fault => nomatch clear
  | silent => nomatch done

namespace Went

theorem nil (sends : Request → Prop) (link : Link σ) : link.Went sends [] link where
  conversation := .nil _
  requests := List.forall_mem_nil _
  batch := rfl
  state := .calm link.state.selectCache

theorem mono (went : link.Went sends turns next) (only : ∀ request, sends request → other request) :
    link.Went other turns next :=
  { went with requests := fun turn member ↦ only _ (went.requests turn member) }

theorem forget (went : link.Went sends turns next) :
    link.Went sends turns next.forgetSelect :=
  { went with state := went.state.forget }

/-- More requests may follow as long as the link is quiet. -/
theorem append (first : link.Went sends turns middle) (still : middle.Quiet)
    (second : middle.Went sends later next) :
    link.Went sends (turns ++ later) next where
  conversation := by
    rw [List.map_append]
    exact first.conversation.append second.conversation
  requests := fun turn member ↦ (List.mem_append.mp member).elim (first.requests turn)
    (second.requests turn)
  batch := second.batch.trans first.batch
  state := by
    obtain ⟨cache, calm⟩ := still.calm first.state
    exact second.state.prepend calm turns

end Went

/-- A WAIT changes nothing; any other status that is not OK ends the accesses and is noted. -/
theorem classify_marked (turn : Turn) {status : TransferStatus} (state : LinkState)
    (turns : List Turn) (answered : turn.status? = some status) :
    (classify status state = (none, state)) ∨
      ∃ failure noted, classify status state = (some failure, noted) ∧ failure ≠ .ok ∧
        state.Marked (turns ++ [turn]) { noted with selectCache := none } := by
  have last : (turns ++ [turn]).getLast? = some turn := List.getLast?_concat
  unfold classify
  cases protocolError : status.protocolError with
  | true => exact .inr ⟨_, _, rfl, nofun, .fault last answered (.inl protocolError)⟩
  | false =>
    cases acknowledge : status.acknowledge with
    | ok => exact .inr ⟨_, _, rfl, nofun, .calm none⟩
    | wait => exact .inl rfl
    | fault => exact .inr ⟨_, _, rfl, nofun, .fault last answered (.inr acknowledge)⟩
    | noAck => exact .inr ⟨_, _, rfl, nofun, .silent last answered ⟨protocolError, acknowledge⟩⟩

end Link

end DebugProbe
