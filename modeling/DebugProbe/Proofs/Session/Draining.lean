import DebugProbe.Proofs.Session.Escalation

/-!
# Draining after a broken exchange

An answer that comes late must not be taken for the answer to a later command, so after a broken
exchange the transport has to be drained. Every call that fails because an exchange broke does so
after the last frame that it wrote, with one exception: where it was a disconnect that failed,
nothing is drained.
-/

namespace DebugProbe

variable {σ : Type}

namespace Recorded

/-- Since an earlier state the transport was drained, and no frame was written after that. -/
def DrainedSince (start now : Recorded σ) : Prop :=
  ∃ before after, now.history = start.history ++ (before ++ .drain :: after) ∧
    ∀ frame, .frame frame ∉ after

variable [Transport σ] {start now : Recorded σ}

theorem drainedSince_of_conversation {deeds : List Deed}
    (conversation : Conversation start (deeds ++ [.drain]) now) : start.DrainedSince now := by
  refine ⟨deeds.flatMap Deed.events, [], ?_, nofun⟩
  rw [history_conversation conversation, List.flatMap_append]
  rfl

/-- Exchanging frames does not drain. -/
theorem not_drainedSince_of_turns {turns : List Turn}
    (conversation : Conversation start (turns.map .turn) now) : ¬start.DrainedSince now := by
  rintro ⟨before, after, history, -⟩
  rw [history_conversation conversation] at history
  have drains : WireEvent.drain ∈ (turns.map Deed.turn).flatMap Deed.events := by
    rw [List.append_cancel_left history]
    exact List.mem_append_right _ List.mem_cons_self
  obtain ⟨deed, member, drains⟩ := List.mem_flatMap.mp drains
  obtain ⟨turn, -, rfl⟩ := List.mem_map.mp member
  change WireEvent.drain ∈ turn.events at drains
  unfold Turn.events at drains
  split at drains
  · nomatch List.mem_singleton.mp drains
  · nomatch drains

end Recorded

variable [Transport σ]

namespace SessionCall

/-- A failure because of a broken exchange leaves the transport drained. -/
def Drains (call : SessionCall) (session : Session (Recorded σ)) : Prop :=
  call.action.Yields session (fun _ _ ↦ True)
    (fun error next ↦ error.isBroken = true →
      session.link.transport.DrainedSince next.link.transport)

/-- The call disconnects, or would have to before it connects anew, and that fails. -/
def FailsToDisconnect (call : SessionCall) (session : Session (Recorded σ)) : Prop :=
  match call with
  | .call .disconnect => ∃ error, (Session.disconnect.outcome session).1 = .error error
  | .call (.connect _) => session.DisconnectFails
  | _ => False

end SessionCall

namespace Session

variable {session next : Session (Recorded σ)}

theorem GivenUp.drained (givenUp : session.GivenUp next) :
    session.link.transport.DrainedSince next.link.transport := by
  obtain ⟨turns, -, saw⟩ := givenUp.exchanges
  exact Recorded.drainedSince_of_conversation saw.conversation

theorem Ended.drainedSince (ended : session.Ended next) :
    session.link.transport.DrainedSince next.link.transport := by
  obtain ⟨deeds, conversation⟩ := ended.drained
  exact Recorded.drainedSince_of_conversation conversation

theorem Left.not_drained (left : session.Left next) :
    ¬session.link.transport.DrainedSince next.link.transport := by
  obtain ⟨turns, conversation⟩ := left.exchanges
  exact Recorded.not_drainedSince_of_turns conversation

/-- Capabilities that cannot be asked for leave the transport drained if an exchange broke. -/
private theorem queryCapabilities_drains (session : Session (Recorded σ)) :
    queryCapabilities.Yields session
      (fun _ next ↦ Action.Reached Conversation session.link.transport next.link.transport)
      (fun error next ↦ error.isBroken = true →
        session.link.transport.DrainedSince next.link.transport) := by
  refine (queryCapabilities_ends session).imp (fun _ _ ⟨_, _, reached⟩ ↦ reached) ?_
  rintro error next (⟨-, ended⟩ | ⟨unbroken, -⟩) isBroken
  · exact ended.drainedSince
  · rw [unbroken] at isBroken
    nomatch isBroken

/-- So does a clock that cannot be set. -/
private theorem setClock_drains (session : Session (Recorded σ)) (hertz : UInt32) :
    (setClock hertz).Yields session (fun _ _ ↦ True)
      (fun error next ↦ error.isBroken = true →
        session.link.transport.DrainedSince next.link.transport) := by
  unfold setClock
  rw [Action.yields_bind]
  refine (queryCapabilities_drains session).imp ?_ (fun _ _ drained ↦ drained)
  rintro capabilities next ⟨deeds, before⟩
  rw [Action.yields_bind]
  refine (command_ends next fun start ↦
    (Probe.setClock_stopsOnBreak _).keeps Conversation.isPath start).imp ?_ ?_
  · intro _ last _
    trivial
  · rintro error last (⟨-, -, more, after⟩ | ⟨unbroken, -⟩) isBroken
    · have conversation : Conversation session.link.transport ((deeds ++ more) ++ [.drain])
          last.link.transport := by
        rw [List.append_assoc]
        exact before.append after
      exact Recorded.drainedSince_of_conversation conversation
    · rw [unbroken] at isBroken
      nomatch isBroken

end Session

namespace SessionCall

open Session

/-- Among the calls that fail because an exchange broke, exactly those that fail to disconnect leave
the transport undrained. -/
theorem drained_iff (session : Session (Recorded σ)) (call : SessionCall) :
    call.action.Yields session (fun _ _ ↦ True)
      (fun error next ↦ error.isBroken = true →
        (session.link.transport.DrainedSince next.link.transport ↔
          ¬call.FailsToDisconnect session)) := by
  have drains (stays : ¬call.FailsToDisconnect session) (drains : call.Drains session) :
      call.action.Yields session (fun _ _ ↦ True)
        (fun error next ↦ error.isBroken = true →
          (session.link.transport.DrainedSince next.link.transport ↔
            ¬call.FailsToDisconnect session)) :=
    drains.imp (fun _ _ _ ↦ trivial) fun _ _ drained isBroken ↦
      iff_of_true (drained isBroken) stays
  have operation (operates : call.operates = true) (direct : call.usesCapabilities = false) :
      call.Drains session := by
    have known (uses : call.usesCapabilities = true) : session.capabilities.isSome = true := by
      rw [direct] at uses
      nomatch uses
    exact (escalates_call operates known).imp (fun _ _ _ ↦ trivial)
      fun _ _ ⟨onBroken, _⟩ isBroken ↦ (onBroken isBroken).drained
  cases call with
  | call asked =>
    cases asked with
    | connect hint =>
      refine Action.yields_map.mpr ((connect_ends session hint).imp (fun _ _ _ ↦ trivial) ?_)
      rintro error next (⟨fails, left⟩ | ⟨stays, -, ends⟩) isBroken
      · exact iff_of_false left.not_drained (fun stays ↦ stays fails)
      · exact iff_of_true (ends isBroken).drainedSince stays
    | disconnect =>
      refine (disconnect_leaves session).with_outcome.imp (fun _ _ _ ↦ trivial) ?_
      rintro error next ⟨left, failed⟩ -
      exact iff_of_false left.not_drained fun stays ↦ stays ⟨error, congrArg Prod.fst failed⟩
    | _ => exact drains id (operation rfl rfl)
  | queryCapabilities =>
    refine drains id (Action.yields_map.mpr ?_)
    exact (queryCapabilities_drains session).imp (fun _ _ _ ↦ trivial) fun _ _ drained ↦ drained
  | setClock hertz => exact drains id (Action.yields_map.mpr (setClock_drains session hertz))
  | _ => exact drains id (operation rfl rfl)

/-- A session that is connected over a simulated probe which leaves its next host status command
unanswered. -/
private def unheard : Session (Recorded (Faulty Simulator)) :=
  ((SessionCall.call (.connect none)).action.outcome
    (.new { inner := { inner := {}, faults := [⟨0x01, 1, .failRead .timeout⟩] } } {})).2

private theorem broken_unheard :
    (match (Session.disconnect.outcome unheard).1 with
      | .ok _ => false
      | .error error => error.isBroken) = true := by
  decide +kernel

/-- A disconnect that times out leaves the transport undrained. -/
theorem not_drains_disconnect :
    unheard.Reached ∧ ¬(SessionCall.call .disconnect).Drains unheard := by
  refine ⟨.call (.new _ _) (.call (.connect none)), fun drains ↦ ?_⟩
  have broken := broken_unheard
  have left := (disconnect_leaves unheard).and drains
  unfold Action.Yields at left
  cases outcome : Session.disconnect.outcome unheard with
  | mk result next =>
    rw [outcome] at broken left
    cases result with
    | ok value => nomatch broken
    | error error => exact left.1.not_drained (left.2 broken)

end SessionCall

end DebugProbe
