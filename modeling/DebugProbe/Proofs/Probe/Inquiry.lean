import DebugProbe.Proofs.Probe.Performing

/-!
# Inquiries

What a probe can do and what it says about itself is asked for by inquiries only, whatever becomes
of them. Besides, the packet size of the transport is set to the one that the probe gives.
-/

namespace DebugProbe

open DebugProbe.Action (Reached)

/-- Whether the request asks for information about the probe. -/
def Request.isInquiry : Request → Bool
  | infoText _ | infoCapabilities | infoTraceBufferSize | infoPacketCount | infoPacketSize => true
  | _ => false

variable {σ α β : Type} [Transport σ]

/-- Deeds lead from state to state, and all exchanges among them are for requests of a kind. -/
structure Asked (asks : Request → Prop) (start : σ) (deeds : List Deed) (next : σ) : Prop where
  conversation : Conversation start deeds next
  requests : ∀ turn, .turn turn ∈ deeds → asks turn.request

variable {asks : Request → Prop}

theorem Asked.isPath : Action.IsPath (Asked (σ := σ) asks) where
  nil state := ⟨.nil state, fun _ none ↦ absurd none List.not_mem_nil⟩
  append := fun ⟨before, early⟩ ⟨after, late⟩ ↦ ⟨before.append after, fun turn member ↦
    (List.mem_append.mp member).elim (early turn) (late turn)⟩

/-- Exchanges lead from state to state. -/
theorem asked_turns {start next : σ} {turns : List Turn}
    (conversation : Conversation start (turns.map .turn) next)
    (requests : ∀ turn ∈ turns, asks turn.request) : Asked asks start (turns.map .turn) next := by
  refine ⟨conversation, fun turn member ↦ ?_⟩
  obtain ⟨taken, isTaken, same⟩ := List.mem_map.mp member
  rw [← Deed.turn.inj same]
  exact requests taken isTaken

/-- More kinds of requests may be allowed. -/
theorem Asked.mono {more : Request → Prop} {start next : σ} {deeds : List Deed}
    (asked : Asked asks start deeds next) (only : ∀ request, asks request → more request) :
    Asked more start deeds next :=
  ⟨asked.conversation, fun turn member ↦ only _ (asked.requests turn member)⟩

/-- The action puts requests of a kind to the probe, and nothing else. -/
def Action.Asks (asks : Request → Prop) (action : Action σ CommandError α) : Prop :=
  ∀ start, action.Keeps (Reached (Asked asks) start) (Reached (Asked asks) start)

/-- An action asks for the same from everywhere. -/
theorem Action.Asks.yields {action : Action σ CommandError α} (asked : action.Asks asks)
    (state : σ) :
    action.Yields state (fun _ next ↦ ∃ deeds, Asked asks state deeds next)
      (fun _ next ↦ ∃ deeds, Asked asks state deeds next) :=
  asked state state (Asked.isPath.reached state)

/-- More kinds of requests may be allowed. -/
theorem Action.Asks.mono {more : Request → Prop} {action : Action σ CommandError α}
    (asked : action.Asks asks) (only : ∀ request, asks request → more request) :
    action.Asks more := by
  rintro start state ⟨deeds, before⟩
  refine (asked.yields state).imp ?_ ?_
  · rintro _ next ⟨later, after⟩
    exact ⟨_, Asked.isPath.append before (after.mono only)⟩
  · rintro _ next ⟨later, after⟩
    exact ⟨_, Asked.isPath.append before (after.mono only)⟩

theorem Action.Asks.bind {action : Action σ CommandError α} {next : α → Action σ CommandError β}
    (first : action.Asks asks) (second : ∀ value, (next value).Asks asks) :
    (action >>= next).Asks asks :=
  fun start ↦ (first start).bind fun value ↦ second value start

namespace Probe

/-- A command is one exchange. -/
theorem send_asks {request : Request} (isAsked : asks request) :
    (send (σ := σ) request).Asks asks := by
  intro start
  have asked {state next : σ} {turn : Turn} (isRequest : turn.request = request)
      (leads : turn.Leads state next) : Asked asks state [.turn turn] next := by
    have conversation : Conversation state ([turn].map .turn) next := .turn leads (.nil next)
    exact asked_turns conversation (List.forall_mem_singleton.mpr (isRequest ▸ isAsked))
  rintro state ⟨deeds, before⟩
  refine (yields_request request state).imp ?_ ?_
  · rintro reply next ⟨written, leads⟩
    exact ⟨_, Asked.isPath.append before (asked rfl leads)⟩
  · rintro error next ⟨-, written, cause, leads⟩
    exact ⟨_, Asked.isPath.append before (asked rfl leads)⟩

/-- A command that is answered with a status is one exchange. -/
theorem accept_asks (status : Status) (rejection : Rejection) :
    (accept (σ := σ) status rejection).Asks asks := by
  cases status with
  | ok => exact fun _ ↦ Action.keeps_pure ()
  | error => exact fun _ ↦ Action.keeps_throw _ fun _ reached ↦ reached

private theorem inquiry_asks (request : Request) (isInquiry : request.isInquiry = true)
    (start : σ) :
    (send request).Keeps (Reached (Asked (·.isInquiry = true)) start)
      (Reached (Asked (·.isInquiry = true)) start) := by
  have asked : (send (σ := σ) request).Asks (·.isInquiry = true) := send_asks isInquiry
  exact asked start

private theorem negotiate_asks (attempts : Nat) (start : σ) :
    (negotiate attempts).Keeps (Reached (Asked (·.isInquiry = true)) start)
      (Reached (Asked (·.isInquiry = true)) start) := by
  induction attempts with
  | zero => exact Action.keeps_throw _ fun _ reached ↦ reached
  | succ attempts ih =>
    unfold negotiate
    refine (inquiry_asks _ rfl start).attempt.bind fun reply ↦ ?_
    split
    · next size =>
      refine Action.Keeps.bind (Action.keeps_update ?_) fun _ ↦ Action.keeps_pure _
      rintro state ⟨deeds, before⟩
      have resized : Asked (·.isInquiry = true) state [.resize size.toNat]
          (Transport.setPacketSize size.toNat state) :=
        ⟨.resize (.nil _), fun _ member ↦ nomatch List.mem_singleton.mp member⟩
      exact ⟨_, Asked.isPath.append before resized⟩
    · exact ih
    · exact Action.keeps_throw _ fun _ reached ↦ reached

theorem queryCapabilities_asks (maxClock : UInt32) :
    (queryCapabilities (σ := σ) maxClock).Asks (·.isInquiry = true) := by
  intro start
  unfold queryCapabilities
  refine (negotiate_asks packetSizeAttempts start).bind fun packetSize ↦ ?_
  refine (inquiry_asks _ rfl start).bind fun packetCount ↦ ?_
  refine (inquiry_asks _ rfl start).bind fun flags ↦ ?_
  have ending {collect : Option String → Capabilities} :
      (send (.infoText .protocolVersion) >>= fun version ↦ pure (collect version) :
        Action σ CommandError Capabilities).Keeps (Reached (Asked (·.isInquiry = true)) start)
        (Reached (Asked (·.isInquiry = true)) start) :=
    (inquiry_asks _ rfl start).bind fun _ ↦ Action.keeps_pure _
  exact Action.keeps_ite ((inquiry_asks _ rfl start).map.bind fun _ ↦ ending)
    ((Action.keeps_pure none).bind fun _ ↦ ending)

theorem identify_asks : (identify (σ := σ)).Asks (·.isInquiry = true) := by
  intro start
  unfold identify
  iterate 9 refine (inquiry_asks _ rfl start).bind fun _ ↦ ?_
  exact Action.keeps_pure _

end Probe

end DebugProbe
