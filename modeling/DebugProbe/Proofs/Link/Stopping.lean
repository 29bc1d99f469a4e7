import DebugProbe.Proofs.Link.Block
import DebugProbe.Proofs.Probe.Stopping

/-!
# Accesses stop at a broken exchange

Register accesses retry after a WAIT, rewrite a register before a block resumes and select registers
in between, but all of that rests on answers. Once an exchange broke nothing more is sent. The
connection stays what it is, whatever becomes of the accesses.
-/

namespace DebugProbe

open DebugProbe.Action (stopsOnBreak_pure stopsOnBreak_throw stopsOnBreak_ite stopsOnBreak_get_bind
  stopsOnBreak_of_still stopsOnBreak_ofExcept StopsOnBreak)

variable {σ : Type} [Transport σ]

namespace Link

/-- Deeds lead from link to link, and the connection is still what it was. -/
def Stays (link : Link σ) (deeds : List Deed) (next : Link σ) : Prop :=
  Conversation link.transport deeds next.transport ∧ next.state.status = link.state.status

theorem stays_isPath : Action.IsPath (Stays (σ := σ)) where
  nil _ := ⟨.nil _, rfl⟩
  append := fun ⟨before, same⟩ ⟨after, also⟩ ↦ ⟨before.append after, also.trans same⟩

/-- A link with the same transport and the same connection is reached without a deed. -/
theorem stays_nil {link next : Link σ} (transport : next.transport = link.transport)
    (status : next.state.status = link.state.status) : Stays link [] next := by
  refine ⟨?_, status⟩
  rw [transport]
  exact .nil _

/-- A command on behalf of an access stops where it stops on its own. -/
theorem command_stopsOnBreak {α : Type} {action : Action σ CommandError α}
    (stops : action.StopsOnBreak Conversation CommandError.isBroken) :
    (command action).StopsOnBreak Stays AccessError.isBroken := by
  intro link
  rw [yields_command]
  refine (stops link.transport).imp ?_ ?_
  · rintro _ next ⟨turns, conversation, answered⟩
    exact ⟨turns, ⟨conversation, rfl⟩, answered⟩
  · rintro error next ⟨turns, conversation, stopped⟩
    exact ⟨turns, ⟨conversation, rfl⟩, stopped⟩

theorem modifyState_stopsOnBreak {change : LinkState → LinkState}
    (same : ∀ state, (change state).status = state.status) :
    (modifyState change).StopsOnBreak (Stays (σ := σ)) AccessError.isBroken :=
  stopsOnBreak_of_still fun _ ↦ stays_nil rfl (same _)

theorem packetSize_stopsOnBreak :
    (onProbe Probe.packetSize).StopsOnBreak (Stays (σ := σ)) AccessError.isBroken :=
  stopsOnBreak_of_still fun _ ↦ stays_nil rfl rfl

theorem forgetSelect_stopsOnBreak :
    (Action.update forgetSelect).StopsOnBreak (Stays (σ := σ)) AccessError.isBroken :=
  stopsOnBreak_of_still fun _ ↦ stays_nil rfl rfl

theorem discard_stopsOnBreak :
    (Action.update discard).StopsOnBreak (Stays (σ := σ)) AccessError.isBroken :=
  stopsOnBreak_of_still fun _ ↦ stays_nil rfl rfl

theorem checkReady_stopsOnBreak :
    checkReady.StopsOnBreak (Stays (σ := σ)) AccessError.isBroken :=
  stopsOnBreak_of_still fun _ ↦ yields_checkReady.mpr
    ⟨fun _ ↦ stays_nil rfl rfl, fun _ _ ↦ stays_nil rfl rfl, fun _ _ ↦ stays_nil rfl rfl⟩

theorem checkNoneQueued_stopsOnBreak :
    checkNoneQueued.StopsOnBreak (Stays (σ := σ)) AccessError.isBroken :=
  stopsOnBreak_of_still fun _ ↦ yields_checkNoneQueued.mpr
    ⟨fun _ ↦ stays_nil rfl rfl, fun _ ↦ stays_nil rfl rfl⟩

theorem queue_stopsOnBreak (packetSize : Nat) (access : RegisterAccess) :
    (queue packetSize access).StopsOnBreak (Stays (σ := σ)) AccessError.isBroken := by
  refine stopsOnBreak_of_still fun link ↦ ?_
  rw [yields_queue, yields_checkReady]
  refine ⟨fun _ ↦ stays_nil rfl rfl, fun _ _ ↦ stays_nil rfl rfl, fun _ _ ↦ ?_⟩
  split
  · exact stays_nil rfl rfl
  · exact stays_nil rfl rfl

/-- What a failed status says about the target does not concern the connection. -/
private theorem status_classify (status : TransferStatus) (state : LinkState) :
    (classify status state).2.status = state.status := by
  rcases classify_cases status state with ⟨-, wait⟩ | ⟨_, _, _, failure, -⟩
  · rw [wait]
  · rw [failure]

private theorem noteFailure_stopsOnBreak (status : TransferStatus) :
    (noteFailure status).StopsOnBreak (Stays (σ := σ)) AccessError.isBroken :=
  stopsOnBreak_of_still fun _ ↦ stays_nil rfl (status_classify status _)

/-- A request is put to the probe in a single exchange. -/
private def Asks (request : Request) (asking : Action (Link σ) AccessError request.Response) :
    Prop :=
  ∀ link, asking.Yields link
    (fun reply next ↦ ∃ written, Stays link [.turn ⟨request, written, .ok reply⟩] next)
    (fun error next ↦ error.isBroken = true ∧ ∃ turn, Stays link [.turn turn] next)

private theorem asks_command (request : Request) :
    Asks (σ := σ) request (command (Probe.send request)) := by
  intro link
  rw [yields_command]
  refine (Probe.yields_send_turn request link.transport).imp ?_ ?_
  · rintro reply next ⟨written, conversation⟩
    exact ⟨written, conversation, rfl⟩
  · rintro error next ⟨isBroken, turn, conversation⟩
    exact ⟨isBroken, turn, conversation, rfl⟩

private theorem Asks.forgetting {request : Request}
    {asking : Action (Link σ) AccessError request.Response} (asks : Asks request asking) :
    Asks request (asking.onError fun _ ↦ forgetSelect) := by
  intro link
  rw [Action.yields_onError]
  refine (asks link).imp (fun _ _ answered ↦ answered) ?_
  rintro error next ⟨isBroken, turn, stays⟩
  exact ⟨isBroken, turn, stays_isPath.append stays (stays_nil rfl rfl)⟩

/-- What follows an exchange may go on if the answer fits the request, and has to fail at once if
it does not. -/
private theorem Asks.bind {α : Type} {request : Request}
    {asking : Action (Link σ) AccessError request.Response} (asks : Asks request asking)
    {next : request.Response → Action (Link σ) AccessError α}
    (fitting : ∀ reply, request.Suits reply → (next reply).StopsOnBreak Stays AccessError.isBroken)
    (unfitting : ∀ reply, ¬request.Suits reply → ∀ link : Link σ,
      (next reply).Yields link (fun _ _ ↦ False)
        (fun error last ↦ error.isBroken = true ∧ Stays link [] last)) :
    (asking >>= next).StopsOnBreak Stays AccessError.isBroken := by
  intro link
  rw [Action.yields_bind]
  refine (asks link).imp ?_ ?_
  · rintro reply after ⟨written, stays⟩
    have taken : Stays link ([(⟨request, written, .ok reply⟩ : Turn)].map .turn) after := stays
    by_cases suits : request.Suits reply
    · refine (fitting reply suits).after stays_isPath taken fun turn member ↦ ?_
      rw [List.mem_singleton.mp member]
      exact ⟨reply, rfl, suits⟩
    · refine (unfitting reply suits after).imp (fun _ _ never ↦ never.elim) ?_
      rintro error last ⟨isBroken, still⟩
      rw [isBroken]
      exact ⟨[_], stays_isPath.append taken still, Turn.stopped_singleton _⟩
  · rintro error after ⟨isBroken, turn, stays⟩
    rw [isBroken]
    exact ⟨[turn], stays, Turn.stopped_singleton turn⟩

/-- Entries are sent until an exchange breaks. -/
private theorem sendEntries_stopsOnBreak (limit : Nat) (entries : List BatchEntry) (waits : Nat) :
    (sendEntries limit entries waits).StopsOnBreak (Stays (σ := σ)) AccessError.isBroken := by
  induction entries, waits using @sendEntries_induction limit with
  | nil waits =>
    rw [sendEntries]
    exact stopsOnBreak_pure stays_isPath []
  | cons entry rest waits progressing again =>
    rw [sendEntries]
    refine stopsOnBreak_get_bind fun link ↦ ?_
    refine (asks_command (.transfer (.ofEntries link.state.dapIndex _))).bind ?_ ?_
    · intro reply suits
      simp only [Request.Suits, TransferRequest.ofEntries, List.length_map] at suits
      refine StopsOnBreak.bind ?_ stays_isPath fun _ ↦ ?_
      · exact modifyState_stopsOnBreak fun _ ↦ rfl
      refine stopsOnBreak_ite (fun ok ↦ ?_) fun notOk ↦ ?_
      · rw [if_pos ok] at suits
        rw [if_pos suits]
        have less : ((entry :: rest).drop reply.count).length < (entry :: rest).length := by
          have nonempty := length_nextFrame_pos entry rest waits
          unfold nextFrame at nonempty
          rw [List.length_drop, suits]
          exact Nat.sub_lt (Nat.zero_lt_succ _) nonempty
        exact (progressing _ less).bind stays_isPath fun _ ↦ stopsOnBreak_pure stays_isPath _
      · -- After a WAIT the same number of entries may be left, with fewer retries.
        rw [if_neg notOk] at suits
        rw [if_neg (Nat.not_le.mpr suits)]
        refine (noteFailure_stopsOnBreak _).bind stays_isPath fun failure? ↦ ?_
        cases failure? with
        | some failure =>
          exact forgetSelect_stopsOnBreak.bind stays_isPath fun _ ↦
            stopsOnBreak_pure stays_isPath _
        | none =>
          refine stopsOnBreak_ite (fun _ ↦ ?_) fun more ↦ ?_
          · exact forgetSelect_stopsOnBreak.bind stays_isPath fun _ ↦
              stopsOnBreak_pure stays_isPath _
          · have le : ((entry :: rest).drop reply.count).length ≤ (entry :: rest).length := by
              rw [List.length_drop]
              exact Nat.sub_le _ _
            exact (again _ le (Nat.lt_of_not_le more)).bind stays_isPath fun _ ↦
              stopsOnBreak_pure stays_isPath _
    · -- A report that does not fit its frame fails at once, before anything is retried.
      intro reply unsuited after
      simp only [Request.Suits, TransferRequest.ofEntries, List.length_map] at unsuited
      rw [Action.yields_bind, yields_modifyState, Action.yields_ite]
      constructor
      · intro ok
        rw [if_pos ok] at unsuited
        rw [if_neg unsuited]
        exact ⟨rfl, stays_nil rfl rfl⟩
      · intro notOk
        rw [if_neg notOk] at unsuited
        rw [if_pos (Nat.not_lt.mp unsuited)]
        exact ⟨rfl, stays_nil rfl rfl⟩

theorem flush_stopsOnBreak (config : TransferConfig) :
    (flush config).StopsOnBreak (Stays (σ := σ)) AccessError.isBroken := by
  refine stopsOnBreak_get_bind fun link ↦ ?_
  refine discard_stopsOnBreak.bind stays_isPath fun _ ↦ ?_
  refine checkReady_stopsOnBreak.bind stays_isPath fun _ ↦ ?_
  refine stopsOnBreak_ite (fun _ ↦ stopsOnBreak_pure stays_isPath _) fun _ ↦ ?_
  exact (sendEntries_stopsOnBreak _ _ 0).onError stays_isPath fun _ _ ↦ stays_nil rfl rfl

theorem run_stopsOnBreak (config : TransferConfig) (access : RegisterAccess) :
    (run config access).StopsOnBreak (Stays (σ := σ)) AccessError.isBroken := by
  refine checkNoneQueued_stopsOnBreak.bind stays_isPath fun _ ↦ ?_
  refine packetSize_stopsOnBreak.bind stays_isPath fun packetSize ↦ ?_
  refine (queue_stopsOnBreak packetSize access).bind stays_isPath fun _ ↦ ?_
  refine (flush_stopsOnBreak config).bind stays_isPath fun responses ↦ ?_
  cases responses with
  | nil => exact stopsOnBreak_throw stays_isPath _
  | cons response rest => exact stopsOnBreak_ofExcept stays_isPath _

theorem clearStickyErrors_stopsOnBreak :
    clearStickyErrors.StopsOnBreak (Stays (σ := σ)) AccessError.isBroken := by
  have clearing (dapIndex : UInt8) :
      (command (Probe.writeAbort dapIndex Abort.clearSticky.word) >>= fun _ ↦
        modifyState fun state ↦ { state with stickyError := false }).StopsOnBreak (Stays (σ := σ))
        AccessError.isBroken :=
    (command_stopsOnBreak (Probe.writeAbort_stopsOnBreak _ _)).bind stays_isPath fun _ ↦
      modifyState_stopsOnBreak fun _ ↦ rfl
  refine stopsOnBreak_get_bind fun link ↦ stopsOnBreak_ite (fun _ ↦ ?_) fun _ ↦ clearing _
  exact (stopsOnBreak_throw stays_isPath _).bind stays_isPath fun _ ↦ clearing _

theorem abortTransfer_stopsOnBreak :
    abortTransfer.StopsOnBreak (Stays (σ := σ)) AccessError.isBroken :=
  discard_stopsOnBreak.bind stays_isPath fun _ ↦
    command_stopsOnBreak Probe.abortTransfer_stopsOnBreak

theorem select_stopsOnBreak (config : TransferConfig) (register : RegisterAddress) :
    (select config register).StopsOnBreak (Stays (σ := σ)) AccessError.isBroken := by
  refine stopsOnBreak_get_bind fun link ↦ ?_
  split
  · exact (run_stopsOnBreak config _).bind stays_isPath fun _ ↦ stopsOnBreak_pure stays_isPath ()
  · exact stopsOnBreak_pure stays_isPath ()

private theorem resumeBlock_stopsOnBreak (config : TransferConfig) (register : RegisterAddress)
    (resume : Option BlockResume) (completed : Nat) :
    (resumeBlock config register resume completed).StopsOnBreak (Stays (σ := σ))
      AccessError.isBroken := by
  cases resume with
  | none => exact stopsOnBreak_pure stays_isPath ()
  | some resume =>
    exact (run_stopsOnBreak config _).bind stays_isPath fun _ ↦ select_stopsOnBreak config register

/-- A block is sent until an exchange breaks. -/
private theorem sendBlock_stopsOnBreak (config : TransferConfig) (register : RegisterAddress)
    (resume : Option BlockResume) {maxWords : Nat} (few : maxWords ≤ 65535) (data : BlockData)
    (completed waits : Nat) :
    (sendBlock config register resume maxWords data completed waits).StopsOnBreak
      (Stays (σ := σ)) AccessError.isBroken := by
  induction data, completed, waits using @sendBlock_induction (waitLimit config) with
  | nil data completed waits empty =>
    rw [sendBlock, if_pos empty]
    exact stopsOnBreak_pure stays_isPath []
  | frame data completed waits left progressing again =>
    have announced : (data.front (min data.size (max maxWords 1))).count.toNat =
        min data.size (max maxWords 1) :=
      data.announced_front (Nat.min_le_left _ _) (by omega)
    rw [sendBlock, if_neg (Nat.ne_of_gt left)]
    refine stopsOnBreak_get_bind fun link ↦ ?_
    refine (asks_command (.transferBlock ⟨link.state.dapIndex, _, _, _⟩)).forgetting.bind ?_ ?_
    · intro reply suits
      simp only [Request.Suits, announced] at suits
      refine stopsOnBreak_ite (fun ok ↦ ?_) fun notOk ↦ ?_
      · have all := suits ok
        rw [if_pos all]
        have some : 0 < reply.count := by
          rw [all]
          omega
        exact (progressing _ some).bind stays_isPath fun _ ↦ stopsOnBreak_pure stays_isPath _
      · refine (noteFailure_stopsOnBreak _).bind stays_isPath fun failure? ↦ ?_
        cases failure? with
        | some failure =>
          exact forgetSelect_stopsOnBreak.bind stays_isPath fun _ ↦
            stopsOnBreak_throw stays_isPath _
        | none =>
          refine stopsOnBreak_ite (fun _ ↦ ?_) fun more ↦ ?_
          · exact forgetSelect_stopsOnBreak.bind stays_isPath fun _ ↦
              stopsOnBreak_throw stays_isPath _
          · refine (resumeBlock_stopsOnBreak config register resume _).bind stays_isPath fun _ ↦ ?_
            exact (again _ (Nat.lt_of_not_le more)).bind stays_isPath fun _ ↦
              stopsOnBreak_pure stays_isPath _
    · intro reply unsuited link
      simp only [Request.Suits, announced] at unsuited
      obtain ⟨ok, part⟩ := Classical.not_imp.mp unsuited
      rw [if_pos ok, if_neg part]
      exact ⟨rfl, stays_nil rfl rfl⟩

theorem block_stopsOnBreak (config : TransferConfig) (register : RegisterAddress)
    (data : BlockData) (resume : Option BlockResume) :
    (block config register data resume).StopsOnBreak (Stays (σ := σ)) AccessError.isBroken := by
  refine checkReady_stopsOnBreak.bind stays_isPath fun _ ↦ ?_
  refine checkNoneQueued_stopsOnBreak.bind stays_isPath fun _ ↦ ?_
  refine (select_stopsOnBreak config register).bind stays_isPath fun _ ↦ ?_
  refine packetSize_stopsOnBreak.bind stays_isPath fun packetSize ↦ ?_
  exact sendBlock_stopsOnBreak config register resume (Nat.min_le_right _ _) data 0 0

end Link

end DebugProbe
