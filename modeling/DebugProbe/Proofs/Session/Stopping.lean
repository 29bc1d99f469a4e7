import DebugProbe.Proofs.Link.Stopping
import DebugProbe.Proofs.Session.Steps
import DebugProbe.Session.Memory

/-!
# Operations stop at a broken exchange

An operation of a session puts right what earlier ones left behind and then accesses registers, one
span of memory after the other if need be. None of these steps goes on after an exchange broke, and
none of them changes the connection or forgets what the probe can do.
-/

namespace DebugProbe

open DebugProbe.Action (stopsOnBreak_pure stopsOnBreak_throw stopsOnBreak_ite stopsOnBreak_get_bind
  stopsOnBreak_of_still stopsOnBreak_ofExcept StopsOnBreak)

/-- Whether the failure is that of a broken exchange. -/
def SessionError.isBroken : SessionError → Bool
  | .operation error => error.cause.isBroken
  | .command error => error.isBroken
  | _ => false

variable {σ : Type} [Transport σ]

namespace Session

section OnLink

open Link (Stays stays_isPath stays_nil)

theorem readRegister_stopsOnBreak (config : TransferConfig) (register : RegisterAddress) :
    (readRegister config register).StopsOnBreak (Stays (σ := σ)) AccessError.isBroken :=
  (Link.run_stopsOnBreak config _).bind stays_isPath fun _ ↦ stopsOnBreak_ofExcept stays_isPath _

theorem writeRegister_stopsOnBreak (config : TransferConfig) (register : RegisterAddress)
    (value : UInt32) :
    (writeRegister config register value).StopsOnBreak (Stays (σ := σ)) AccessError.isBroken :=
  (Link.run_stopsOnBreak config _).bind stays_isPath fun _ ↦ stopsOnBreak_pure stays_isPath ()

private theorem queueAll_stopsOnBreak (packetSize : Nat) (accesses : List RegisterAccess) :
    (queueAll packetSize accesses).StopsOnBreak (Stays (σ := σ)) AccessError.isBroken := by
  induction accesses with
  | nil => exact stopsOnBreak_pure stays_isPath ()
  | cons access rest ih =>
    have queueing : ((Link.queue packetSize access).onError fun _ ↦ Link.discard).StopsOnBreak
        (Stays (σ := σ)) AccessError.isBroken :=
      (Link.queue_stopsOnBreak packetSize access).onError stays_isPath fun _ _ ↦ stays_nil rfl rfl
    exact queueing.bind stays_isPath fun _ ↦ ih

theorem runAll_stopsOnBreak (config : TransferConfig) (accesses : List RegisterAccess) :
    (runAll config accesses).StopsOnBreak (Stays (σ := σ)) AccessError.isBroken := by
  refine Link.checkNoneQueued_stopsOnBreak.bind stays_isPath fun _ ↦ ?_
  refine Link.packetSize_stopsOnBreak.bind stays_isPath fun packetSize ↦ ?_
  refine (queueAll_stopsOnBreak packetSize accesses).bind stays_isPath fun _ ↦ ?_
  exact (Link.flush_stopsOnBreak config).bind stays_isPath fun _ ↦
    stopsOnBreak_ofExcept stays_isPath _

private theorem readSpan_stopsOnBreak (config : TransferConfig) (port : MemoryPort)
    (span : MemorySpan) :
    (readSpan config port span).StopsOnBreak (Stays (σ := σ)) AccessError.isBroken := by
  cases span with
  | byte address =>
    exact (runAll_stopsOnBreak config _).bind stays_isPath fun _ ↦
      (stopsOnBreak_ofExcept stays_isPath _).bind stays_isPath fun _ ↦
        stopsOnBreak_pure stays_isPath _
  | words address count =>
    exact (runAll_stopsOnBreak config _).bind stays_isPath fun _ ↦
      (Link.block_stopsOnBreak config port.drw (.read count) _).bind stays_isPath fun _ ↦
        stopsOnBreak_pure stays_isPath _

private theorem writeSpan_stopsOnBreak (config : TransferConfig) (port : MemoryPort) (data : Bytes)
    (span : MemorySpan) :
    (writeSpan config port data span).StopsOnBreak (Stays (σ := σ)) AccessError.isBroken := by
  cases span with
  | byte address =>
    exact (runAll_stopsOnBreak config _).bind stays_isPath fun _ ↦ stopsOnBreak_pure stays_isPath ()
  | words address count =>
    exact (runAll_stopsOnBreak config _).bind stays_isPath fun _ ↦
      (Link.block_stopsOnBreak config port.drw (.write _) _).bind stays_isPath fun _ ↦
        stopsOnBreak_pure stays_isPath ()

theorem readSpans_stopsOnBreak (config : TransferConfig) (port : MemoryPort)
    (spans : List MemorySpan) :
    (readSpans config port spans).StopsOnBreak (Stays (σ := σ)) AccessError.isBroken := by
  induction spans with
  | nil => exact stopsOnBreak_pure stays_isPath []
  | cons span rest ih =>
    exact (readSpan_stopsOnBreak config port span).bind stays_isPath fun _ ↦
      ih.bind stays_isPath fun _ ↦ stopsOnBreak_pure stays_isPath _

theorem writeSpans_stopsOnBreak (config : TransferConfig) (port : MemoryPort)
    (spans : List MemorySpan) (data : Bytes) :
    (writeSpans config port spans data).StopsOnBreak (Stays (σ := σ)) AccessError.isBroken := by
  induction spans generalizing data with
  | nil => exact stopsOnBreak_pure stays_isPath ()
  | cons span rest ih =>
    exact (writeSpan_stopsOnBreak config port _ span).bind stays_isPath fun _ ↦ ih _

end OnLink

/-- Deeds lead from session to session; the connection is still what it was, and what the probe can
do is still known. -/
def Stays (session : Session σ) (deeds : List Deed) (next : Session σ) : Prop :=
  session.link.Stays deeds next.link ∧ next.capabilities = session.capabilities

theorem stays_isPath : Action.IsPath (Stays (σ := σ)) where
  nil session := ⟨Link.stays_isPath.nil session.link, rfl⟩
  append := fun ⟨before, same⟩ ⟨after, also⟩ ↦
    ⟨Link.stays_isPath.append before after, also.trans same⟩

/-- An action of the link stops in a session where it stops on its own. -/
theorem onLink_stopsOnBreak {α : Type} {action : Action (Link σ) AccessError α}
    (stops : action.StopsOnBreak Link.Stays AccessError.isBroken) :
    (onLink action).StopsOnBreak Stays AccessError.isBroken := by
  intro session
  rw [yields_onLink]
  refine (stops session.link).imp ?_ ?_
  · rintro _ next ⟨turns, stays, answered⟩
    exact ⟨turns, ⟨stays, rfl⟩, answered⟩
  · rintro error next ⟨turns, stays, stopped⟩
    exact ⟨turns, ⟨stays, rfl⟩, stopped⟩

private theorem recoverySequences_stopsOnBreak (protocol : WireProtocol)
    (targetSel : Option UInt32) :
    (recoverySequences protocol targetSel).StopsOnBreak (Conversation (σ := σ))
      CommandError.isBroken := by
  cases protocol with
  | jtag => exact Line.tapReset_stopsOnBreak
  | swd =>
    refine (Line.reset_stopsOnBreak _).bind Conversation.isPath fun _ ↦ ?_
    cases targetSel with
    | none => exact stopsOnBreak_pure Conversation.isPath ()
    | some targetSel =>
      exact (Line.targetSelect_stopsOnBreak targetSel).bind Conversation.isPath fun _ ↦
        Line.idle_stopsOnBreak _

private theorem recoverLine_stopsOnBreak :
    recoverLine.StopsOnBreak (Stays (σ := σ)) AccessError.isBroken := by
  refine stopsOnBreak_get_bind fun session ↦ ?_
  refine (onLink_stopsOnBreak (Link.command_stopsOnBreak
    (recoverySequences_stopsOnBreak _ _))).bind stays_isPath fun _ ↦ ?_
  refine StopsOnBreak.bind ?_ stays_isPath fun _ ↦ ?_
  · exact onLink_stopsOnBreak (Link.modifyState_stopsOnBreak fun _ ↦ rfl)
  refine (onLink_stopsOnBreak (readRegister_stopsOnBreak _ _)).bind stays_isPath fun _ ↦ ?_
  exact onLink_stopsOnBreak (Link.modifyState_stopsOnBreak fun _ ↦ rfl)

theorem prepare_stopsOnBreak : prepare.StopsOnBreak (Stays (σ := σ)) AccessError.isBroken := by
  have recovering : (get >>= fun session : Session σ ↦
      if session.link.state.lineResetPending then recoverLine else pure ()).StopsOnBreak Stays
        AccessError.isBroken :=
    stopsOnBreak_get_bind fun _ ↦ stopsOnBreak_ite (fun _ ↦ recoverLine_stopsOnBreak)
      fun _ ↦ stopsOnBreak_pure stays_isPath ()
  -- An `if` without `else` repeats the rest of the operation in both of its branches.
  have clearing (session : Session σ) :
      (if session.link.state.stickyError && session.config.session.autoClearSticky then
        onLink Link.clearStickyErrors >>= fun _ ↦ get >>= fun session : Session σ ↦
          if session.link.state.lineResetPending then recoverLine else pure ()
      else get >>= fun session : Session σ ↦
        if session.link.state.lineResetPending then recoverLine else pure ()).StopsOnBreak Stays
        AccessError.isBroken :=
    stopsOnBreak_ite (fun _ ↦ (onLink_stopsOnBreak Link.clearStickyErrors_stopsOnBreak).bind
      stays_isPath fun _ ↦ recovering) fun _ ↦ recovering
  refine stopsOnBreak_get_bind fun session ↦ stopsOnBreak_ite (fun _ ↦ ?_) fun _ ↦ clearing session
  exact (stopsOnBreak_throw stays_isPath _).bind stays_isPath fun _ ↦ clearing session

end Session

end DebugProbe
