import DebugProbe.Line
import DebugProbe.Probe.Capabilities
import DebugProbe.Proofs.Probe.Conversation

/-!
# Stopping at a broken exchange

An exchange breaks if the pipe fails or if what comes back is no answer to the request. Most actions
stop there: they do nothing with the transport but exchange frames, and only the last exchange of
an action that fails can have broken. The negotiation of the packet size is different, because it
asks again after a timeout. Of any action it can be said that it gets from one state to the next by
a conversation.
-/

namespace DebugProbe

/-- The reply fits the request: everything that was asked for completed, or the status tells why
not. -/
def Request.Suits : (request : Request) → request.Response → Prop
  | transfer request, reply =>
    if reply.status.isOk then reply.count = request.transfers.length
    else reply.count < request.transfers.length
  | transferBlock request, reply =>
    reply.status.isOk = true → reply.count = request.access.count.toNat
  | _, _ => True

/-- The exchange did not break: there was an answer, and it fits the request. -/
def Turn.Answered (turn : Turn) : Prop :=
  ∃ reply, turn.result = .ok reply ∧ turn.request.Suits reply

/-- The exchanges of an action that failed: none of them broke before the last one, and none at all
unless the failure is that of a broken exchange. -/
structure Turn.Stopped (broken : Bool) (turns : List Turn) : Prop where
  answered : ∀ turn ∈ turns.dropLast, turn.Answered
  unbroken : broken = false → ∀ turn ∈ turns, turn.Answered

namespace Turn

variable {broken : Bool} {turns later : List Turn}

theorem stopped_of_answered (answered : ∀ turn ∈ turns, turn.Answered) : Stopped broken turns :=
  ⟨fun turn member ↦ answered turn (List.dropLast_subset _ member), fun _ ↦ answered⟩

/-- Whatever became of it, a single exchange is the last one. -/
theorem stopped_singleton (turn : Turn) : Stopped true [turn] where
  answered := List.forall_mem_nil _
  unbroken := nofun

/-- Answered exchanges may come before. -/
theorem Stopped.prepend (stopped : Stopped broken later)
    (answered : ∀ turn ∈ turns, turn.Answered) : Stopped broken (turns ++ later) where
  answered := by
    intro turn member
    cases later with
    | nil =>
      rw [List.append_nil] at member
      exact answered turn (List.dropLast_subset _ member)
    | cons next rest =>
      rw [List.dropLast_append_of_ne_nil (List.cons_ne_nil next rest)] at member
      rcases List.mem_append.mp member with early | late
      · exact answered turn early
      · exact stopped.answered turn late
  unbroken := by
    intro unbroken turn member
    rcases List.mem_append.mp member with early | late
    · exact answered turn early
    · exact stopped.unbroken unbroken turn late

end Turn

namespace Action

variable {σ ε α β : Type}

/-- Deeds lead from state to state, and may follow each other. -/
structure IsPath (path : σ → List Deed → σ → Prop) : Prop where
  nil : ∀ state, path state [] state
  append : ∀ {before next last deeds later}, path before deeds next → path next later last →
    path before (deeds ++ later) last

/-- Some deeds lead from one state to another. -/
def Reached (path : σ → List Deed → σ → Prop) (start state : σ) : Prop :=
  ∃ deeds, path start deeds state

/-- The action does nothing but exchange frames, and stops at the first exchange that breaks. -/
def StopsOnBreak (path : σ → List Deed → σ → Prop) (broken : ε → Bool) (action : Action σ ε α) :
    Prop :=
  ∀ state, action.Yields state
    (fun _ next ↦ ∃ turns : List Turn, path state (turns.map .turn) next ∧
      ∀ turn ∈ turns, turn.Answered)
    (fun error next ↦ ∃ turns : List Turn, path state (turns.map .turn) next ∧
      Turn.Stopped (broken error) turns)

variable {path : σ → List Deed → σ → Prop} {broken : ε → Bool} {action : Action σ ε α}

theorem IsPath.reached (isPath : IsPath path) (start : σ) : Reached path start start :=
  ⟨[], isPath.nil start⟩

/-- An action that stops on a break only gets ahead on the path. -/
theorem StopsOnBreak.keeps (stops : action.StopsOnBreak path broken) (isPath : IsPath path)
    (start : σ) : action.Keeps (Reached path start) (Reached path start) := by
  rintro state ⟨deeds, before⟩
  refine (stops state).imp ?_ ?_
  · rintro _ next ⟨turns, after, -⟩
    exact ⟨_, isPath.append before after⟩
  · rintro _ next ⟨turns, after, -⟩
    exact ⟨_, isPath.append before after⟩

section Rules

/-- An action that does nothing with the transport stops at once. -/
theorem stopsOnBreak_of_still
    (still : ∀ state, action.Yields state (fun _ next ↦ path state [] next)
      (fun _ next ↦ path state [] next)) :
    action.StopsOnBreak path broken :=
  fun state ↦ (still state).imp (fun _ _ none ↦ ⟨[], none, List.forall_mem_nil _⟩)
    (fun _ _ none ↦ ⟨[], none, Turn.stopped_of_answered (List.forall_mem_nil _)⟩)

theorem stopsOnBreak_pure (isPath : IsPath path) (value : α) :
    (pure value : Action σ ε α).StopsOnBreak path broken :=
  stopsOnBreak_of_still isPath.nil

theorem stopsOnBreak_throw (isPath : IsPath path) (error : ε) :
    (throw error : Action σ ε α).StopsOnBreak path broken :=
  stopsOnBreak_of_still isPath.nil

theorem stopsOnBreak_ofExcept (isPath : IsPath path) (result : Except ε α) :
    (ofExcept result).StopsOnBreak path broken := by
  cases result with
  | ok value => exact stopsOnBreak_pure isPath value
  | error error => exact stopsOnBreak_throw isPath error

/-- An action may stop after exchanges that were answered. -/
theorem StopsOnBreak.after (stops : action.StopsOnBreak path broken) (isPath : IsPath path)
    {start state : σ} {turns : List Turn} (before : path start (turns.map .turn) state)
    (answered : ∀ turn ∈ turns, turn.Answered) :
    action.Yields state
      (fun _ next ↦ ∃ turns : List Turn, path start (turns.map .turn) next ∧
        ∀ turn ∈ turns, turn.Answered)
      (fun error next ↦ ∃ turns : List Turn, path start (turns.map .turn) next ∧
        Turn.Stopped (broken error) turns) := by
  refine (stops state).imp ?_ ?_
  · rintro _ last ⟨more, after, also⟩
    refine ⟨turns ++ more, ?_, ?_⟩
    · rw [List.map_append]
      exact isPath.append before after
    · exact fun turn member ↦ (List.mem_append.mp member).elim (answered turn) (also turn)
  · rintro error last ⟨more, after, stopped⟩
    refine ⟨turns ++ more, ?_, stopped.prepend answered⟩
    rw [List.map_append]
    exact isPath.append before after

/-- A sequence stops where its actions stop. -/
theorem StopsOnBreak.bind (first : action.StopsOnBreak path broken) (isPath : IsPath path)
    {next : α → Action σ ε β} (later : ∀ value, (next value).StopsOnBreak path broken) :
    (action >>= next).StopsOnBreak path broken := by
  intro state
  rw [Action.yields_bind]
  refine (first state).imp ?_ (fun _ _ stopped ↦ stopped)
  rintro value middle ⟨turns, before, answered⟩
  exact (later value).after isPath before answered

/-- An action may go on with whatever the state is. -/
theorem stopsOnBreak_get_bind {next : σ → Action σ ε β}
    (later : ∀ state, (next state).StopsOnBreak path broken) :
    (get >>= next).StopsOnBreak path broken :=
  fun state ↦ Action.yields_bind.mpr (later state state)

theorem stopsOnBreak_ite {condition : Prop} [Decidable condition] {yes no : Action σ ε α}
    (onYes : condition → yes.StopsOnBreak path broken)
    (onNo : ¬condition → no.StopsOnBreak path broken) :
    (if condition then yes else no).StopsOnBreak path broken := by
  split
  · next holds => exact onYes holds
  · next fails => exact onNo fails

theorem StopsOnBreak.map (stops : action.StopsOnBreak path broken) {f : α → β} :
    (f <$> action).StopsOnBreak path broken :=
  fun state ↦ yields_map.mpr (stops state)

/-- A failure may be followed by a change that does nothing with the transport. -/
theorem StopsOnBreak.onError (stops : action.StopsOnBreak path broken) (isPath : IsPath path)
    {recover : ε → σ → σ} (still : ∀ error state, path state [] (recover error state)) :
    (action.onError recover).StopsOnBreak path broken := by
  intro state
  rw [yields_onError]
  refine (stops state).imp (fun _ _ done ↦ done) ?_
  rintro error next ⟨turns, before, stopped⟩
  refine ⟨turns, ?_, stopped⟩
  rw [← List.append_nil (turns.map Deed.turn)]
  exact isPath.append before (still error next)

end Rules

end Action

open DebugProbe.Action (StopsOnBreak Reached)

variable {σ : Type} [Transport σ]

theorem Conversation.isPath : Action.IsPath (Conversation (σ := σ)) := ⟨.nil, .append⟩

namespace Probe

/-- A command is one exchange, which may break. -/
theorem yields_send_turn (request : Request) (state : σ) :
    (send request).Yields state
      (fun reply next ↦ ∃ written, Conversation state [.turn ⟨request, written, .ok reply⟩] next)
      (fun error next ↦ error.isBroken = true ∧ ∃ turn, Conversation state [.turn turn] next) := by
  unfold send
  rw [Action.yields_mapError]
  refine yields_turn.imp ?_ ?_
  · rintro reply next ⟨written, leads⟩
    exact ⟨written, .turn leads (.nil next)⟩
  · rintro error next ⟨written, leads⟩
    exact ⟨rfl, _, .turn leads (.nil next)⟩

/-- A command whose answer is all that there is to ask stops if its exchange breaks. -/
theorem send_stopsOnBreak (request : Request) (suits : ∀ reply, request.Suits reply) :
    (send request).StopsOnBreak (Conversation (σ := σ)) CommandError.isBroken := by
  intro state
  refine (yields_send_turn request state).imp ?_ ?_
  · rintro reply next ⟨written, conversation⟩
    refine ⟨[_], conversation, fun turn member ↦ ?_⟩
    rw [List.mem_singleton.mp member]
    exact ⟨reply, rfl, suits reply⟩
  · rintro error next ⟨isBroken, turn, conversation⟩
    rw [isBroken]
    exact ⟨[turn], conversation, Turn.stopped_singleton turn⟩

/-- A command gets to the next state by a conversation. -/
theorem send_keeps (request : Request) (start : σ) :
    (send request).Keeps (Reached Conversation start) (Reached Conversation start) := by
  rintro state ⟨deeds, before⟩
  refine (yields_send_turn request state).imp ?_ ?_
  · rintro reply next ⟨written, conversation⟩
    exact ⟨_, before.append conversation⟩
  · rintro error next ⟨-, turn, conversation⟩
    exact ⟨_, before.append conversation⟩

theorem accept_stopsOnBreak (status : Status) (rejection : Rejection) :
    (accept status rejection).StopsOnBreak (Conversation (σ := σ)) CommandError.isBroken := by
  cases status with
  | ok => exact Action.stopsOnBreak_pure Conversation.isPath ()
  | error => exact Action.stopsOnBreak_throw Conversation.isPath _

theorem fitting_stopsOnBreak {α : Type} (parameters? : Option α) :
    (fitting parameters?).StopsOnBreak (Conversation (σ := σ)) CommandError.isBroken := by
  cases parameters? with
  | none => exact Action.stopsOnBreak_throw Conversation.isPath _
  | some parameters => exact Action.stopsOnBreak_pure Conversation.isPath _

/-- A command that is answered with a status stops if its exchange breaks. -/
private theorem accepted (request : Request) (suits : ∀ reply, request.Suits reply)
    (status : request.Response → Status) (rejection : Rejection) :
    (send request >>= fun reply ↦ accept (status reply) rejection).StopsOnBreak
      (Conversation (σ := σ)) CommandError.isBroken :=
  (send_stopsOnBreak request suits).bind Conversation.isPath fun _ ↦ accept_stopsOnBreak _ _

theorem hostStatus_stopsOnBreak (connected : Bool) :
    (hostStatus connected).StopsOnBreak (Conversation (σ := σ)) CommandError.isBroken :=
  send_stopsOnBreak _ fun _ ↦ trivial

theorem disconnect_stopsOnBreak :
    disconnect.StopsOnBreak (Conversation (σ := σ)) CommandError.isBroken :=
  accepted .disconnect (fun _ ↦ trivial) id _

theorem setClock_stopsOnBreak (hertz : UInt32) :
    (setClock hertz).StopsOnBreak (Conversation (σ := σ)) CommandError.isBroken :=
  accepted (.clock hertz) (fun _ ↦ trivial) id _

theorem configureTransfers_stopsOnBreak (settings : TransferSettings) :
    (configureTransfers settings).StopsOnBreak (Conversation (σ := σ)) CommandError.isBroken :=
  accepted (.transferConfigure settings) (fun _ ↦ trivial) id _

theorem configureSwd_stopsOnBreak (settings : SwdSettings) :
    (configureSwd settings).StopsOnBreak (Conversation (σ := σ)) CommandError.isBroken :=
  accepted (.swdConfigure settings) (fun _ ↦ trivial) id _

theorem configureJtag_stopsOnBreak (chain : JtagChain) :
    (configureJtag chain).StopsOnBreak (Conversation (σ := σ)) CommandError.isBroken :=
  accepted (.jtagConfigure chain) (fun _ ↦ trivial) id _

theorem writeAbort_stopsOnBreak (dapIndex : UInt8) (value : UInt32) :
    (writeAbort dapIndex value).StopsOnBreak (Conversation (σ := σ)) CommandError.isBroken :=
  accepted (.writeAbort dapIndex value) (fun _ ↦ trivial) id _

theorem resetTarget_stopsOnBreak :
    resetTarget.StopsOnBreak (Conversation (σ := σ)) CommandError.isBroken :=
  accepted .resetTarget (fun _ ↦ trivial) ResetReply.status _

theorem setResetPin_stopsOnBreak (level : Bool) :
    (setResetPin level).StopsOnBreak (Conversation (σ := σ)) CommandError.isBroken :=
  send_stopsOnBreak (.pins _) fun _ ↦ trivial

theorem abortTransfer_stopsOnBreak :
    abortTransfer.StopsOnBreak (Conversation (σ := σ)) CommandError.isBroken :=
  send_stopsOnBreak .transferAbort fun _ ↦ trivial

theorem connectPort_stopsOnBreak (protocol : Option WireProtocol) :
    (connectPort protocol).StopsOnBreak (Conversation (σ := σ)) CommandError.isBroken := by
  refine (send_stopsOnBreak (.connect _) fun _ ↦ trivial).bind Conversation.isPath
    fun reply ↦ ?_
  cases reply with
  | failed => exact Action.stopsOnBreak_throw Conversation.isPath _
  | swd => exact Action.stopsOnBreak_pure Conversation.isPath _
  | jtag => exact Action.stopsOnBreak_pure Conversation.isPath _

theorem scanJtag_stopsOnBreak (scan : JtagScan) :
    (scanJtag scan).StopsOnBreak (Conversation (σ := σ)) CommandError.isBroken :=
  (send_stopsOnBreak (.jtagScan scan) fun _ ↦ trivial).bind Conversation.isPath fun _ ↦
    (accept_stopsOnBreak _ _).bind Conversation.isPath fun _ ↦
      Action.stopsOnBreak_pure Conversation.isPath _

theorem sendBits_stopsOnBreak (bitLength : UInt8) (bits : UInt64) :
    (sendBits bitLength bits).StopsOnBreak (Conversation (σ := σ)) CommandError.isBroken := by
  have sending (sequence : LineSequence) :
      (sendSequence sequence).StopsOnBreak (Conversation (σ := σ)) CommandError.isBroken :=
    accepted (.lineSequence sequence) (fun _ ↦ trivial) id _
  have sendingFit := (fitting_stopsOnBreak (σ := σ)
    (LineSequence.ofBytes? (Bytes.ofUInt64 bits) bitLength)).bind Conversation.isPath sending
  refine Action.stopsOnBreak_ite (fun _ ↦ ?_) fun _ ↦ sendingFit
  exact (Action.stopsOnBreak_throw Conversation.isPath _).bind Conversation.isPath
    fun _ ↦ sendingFit

theorem identify_stopsOnBreak :
    identify.StopsOnBreak (Conversation (σ := σ)) CommandError.isBroken := by
  have info (item : InfoText) :
      (send (.infoText item)).StopsOnBreak (Conversation (σ := σ)) CommandError.isBroken :=
    send_stopsOnBreak _ fun _ ↦ trivial
  have isPath := Conversation.isPath (σ := σ)
  unfold identify
  exact (info .vendor).bind isPath fun _ ↦ (info .product).bind isPath fun _ ↦
    (info .serialNumber).bind isPath fun _ ↦ (info .protocolVersion).bind isPath fun _ ↦
    (info .targetVendor).bind isPath fun _ ↦ (info .targetName).bind isPath fun _ ↦
    (info .boardVendor).bind isPath fun _ ↦ (info .boardName).bind isPath fun _ ↦
    (info .firmwareVersion).bind isPath fun _ ↦ Action.stopsOnBreak_pure isPath _

/-- Asking for the packet size again after a timeout is a conversation. -/
private theorem negotiate_keeps (attempts : Nat) (start : σ) :
    (negotiate attempts).Keeps (Reached Conversation start) (Reached Conversation start) := by
  induction attempts with
  | zero => exact Action.keeps_throw _ fun _ reached ↦ reached
  | succ attempts ih =>
    unfold negotiate
    refine (send_keeps _ start).attempt.bind fun reply ↦ ?_
    split
    · next size =>
      refine Action.Keeps.bind (Action.keeps_update ?_) fun _ ↦ Action.keeps_pure _
      rintro state ⟨deeds, before⟩
      exact ⟨_, before.append (.resize (.nil _))⟩
    · exact ih
    · exact Action.keeps_throw _ fun _ reached ↦ reached

/-- The rest of the query of the capabilities, once the packet size is known. -/
def inquire (maxClock : UInt32) (packetSize : UInt16) : Action σ CommandError Capabilities := do
  let packetCount ← send .infoPacketCount
  let flags ← send .infoCapabilities
  let traceBufferSize ←
    if flags.traceUart || flags.traceManchester then some <$> send .infoTraceBufferSize
    else pure none
  let protocolVersion ← send (.infoText .protocolVersion)
  return {
    packetSize, packetCount, maxClock, flags, protocolVersion, traceBufferSize
    multidrop := Capabilities.allowsMultidrop protocolVersion }

/-- The query of the capabilities begins with the negotiation. -/
theorem queryCapabilities_eq (maxClock : UInt32) :
    queryCapabilities (σ := σ) maxClock = findPacketSize >>= inquire maxClock := rfl

/-- Nothing but questions follows the negotiation. -/
theorem inquire_stopsOnBreak (maxClock : UInt32) (packetSize : UInt16) :
    (inquire maxClock packetSize).StopsOnBreak (Conversation (σ := σ)) CommandError.isBroken := by
  have isPath := Conversation.isPath (σ := σ)
  have ending {collect : Option String → Capabilities} :
      (send (.infoText .protocolVersion) >>= fun version ↦ pure (collect version) :
        Action σ CommandError Capabilities).StopsOnBreak Conversation CommandError.isBroken :=
    (send_stopsOnBreak (.infoText .protocolVersion) fun _ ↦ trivial).bind isPath
      fun _ ↦ Action.stopsOnBreak_pure isPath _
  have tracing : (send (σ := σ) .infoTraceBufferSize).StopsOnBreak Conversation
      CommandError.isBroken :=
    send_stopsOnBreak .infoTraceBufferSize fun _ ↦ trivial
  refine (send_stopsOnBreak .infoPacketCount fun _ ↦ trivial).bind isPath fun packetCount ↦
    (send_stopsOnBreak .infoCapabilities fun _ ↦ trivial).bind isPath fun flags ↦ ?_
  exact Action.stopsOnBreak_ite (fun _ ↦ tracing.map.bind isPath fun _ ↦ ending)
    fun _ ↦ (Action.stopsOnBreak_pure isPath none).bind isPath fun _ ↦ ending

theorem queryCapabilities_keeps (maxClock : UInt32) (start : σ) :
    (queryCapabilities maxClock).Keeps (Reached Conversation start)
      (Reached Conversation start) := by
  rw [queryCapabilities_eq]
  exact (negotiate_keeps packetSizeAttempts start).bind fun packetSize ↦
    (inquire_stopsOnBreak maxClock packetSize).keeps Conversation.isPath start

end Probe

namespace Line

open Conversation (isPath)

theorem pattern_stopsOnBreak (cycles : Nat) (bits : UInt64) :
    (pattern cycles bits).StopsOnBreak (Conversation (σ := σ)) CommandError.isBroken :=
  Probe.sendBits_stopsOnBreak _ _

theorem idle_stopsOnBreak (cycles : Nat) :
    (idle cycles).StopsOnBreak (Conversation (σ := σ)) CommandError.isBroken := by
  induction cycles using idle.induct with
  | case1 =>
    unfold idle
    exact Action.stopsOnBreak_pure isPath ()
  | case2 cycles some ih =>
    unfold idle
    rw [if_neg some]
    exact (pattern_stopsOnBreak _ 0).bind isPath fun _ ↦ ih

theorem reset_stopsOnBreak (idleCycles : Nat) :
    (reset idleCycles).StopsOnBreak (Conversation (σ := σ)) CommandError.isBroken :=
  Action.stopsOnBreak_ite (fun _ ↦ pattern_stopsOnBreak _ _)
    fun _ ↦ (pattern_stopsOnBreak _ _).bind isPath fun _ ↦ idle_stopsOnBreak idleCycles

private theorem patterns_stopsOnBreak (cycles : Nat) (all : List UInt64) :
    (patterns cycles all).StopsOnBreak (Conversation (σ := σ)) CommandError.isBroken := by
  induction all with
  | nil => exact Action.stopsOnBreak_pure isPath ()
  | cons bits rest ih => exact (pattern_stopsOnBreak cycles bits).bind isPath fun _ ↦ ih

private theorem jtagToSwd_stopsOnBreak :
    jtagToSwd.StopsOnBreak (Conversation (σ := σ)) CommandError.isBroken :=
  (reset_stopsOnBreak _).bind isPath fun _ ↦ (pattern_stopsOnBreak _ _).bind isPath fun _ ↦
    reset_stopsOnBreak _

private theorem swdToJtag_stopsOnBreak :
    swdToJtag.StopsOnBreak (Conversation (σ := σ)) CommandError.isBroken :=
  (reset_stopsOnBreak _).bind isPath fun _ ↦ (pattern_stopsOnBreak _ _).bind isPath fun _ ↦
    pattern_stopsOnBreak _ _

private theorem dormantToSwd_stopsOnBreak :
    dormantToSwd.StopsOnBreak (Conversation (σ := σ)) CommandError.isBroken :=
  (reset_stopsOnBreak _).bind isPath fun _ ↦ (pattern_stopsOnBreak _ _).bind isPath fun _ ↦
    (pattern_stopsOnBreak _ _).bind isPath fun _ ↦ (patterns_stopsOnBreak _ _).bind isPath fun _ ↦
    (pattern_stopsOnBreak _ _).bind isPath fun _ ↦ reset_stopsOnBreak _

theorem targetSelect_stopsOnBreak (targetSel : UInt32) :
    (targetSelect targetSel).StopsOnBreak (Conversation (σ := σ)) CommandError.isBroken :=
  pattern_stopsOnBreak _ _

theorem tapReset_stopsOnBreak :
    tapReset.StopsOnBreak (Conversation (σ := σ)) CommandError.isBroken :=
  (Probe.scanJtag_stopsOnBreak _).bind isPath fun _ ↦ Action.stopsOnBreak_pure isPath ()

/-- Waking the line gets to the next state by a conversation. -/
theorem connect_keeps (protocol : WireProtocol) (choice : DebugPortChoice) (start : σ) :
    (connect protocol choice).Keeps (Reached Conversation start) (Reached Conversation start) := by
  cases protocol with
  | swd =>
    cases choice with
    | sole =>
      exact (jtagToSwd_stopsOnBreak.keeps isPath start).mapError
    | multidrop targetSel =>
      have stops := dormantToSwd_stopsOnBreak.bind (isPath (σ := σ)) fun _ ↦
        (targetSelect_stopsOnBreak targetSel).bind isPath fun _ ↦ idle_stopsOnBreak idleAfterReset
      exact (stops.keeps isPath start).mapError
  | jtag =>
    cases choice with
    | sole =>
      have stops := swdToJtag_stopsOnBreak.bind (isPath (σ := σ)) fun _ ↦ tapReset_stopsOnBreak
      exact (stops.keeps isPath start).mapError
    | multidrop targetSel => exact Action.keeps_throw _ fun _ reached ↦ reached

end Line

end DebugProbe
