import DebugProbe.Proofs.Bounds.Firmware
import DebugProbe.Proofs.Bounds.Session
import DebugProbe.Proofs.Session.Invariant

/-!
# No answer makes the library reach outside

Whatever a transport does, exchanges, calls of a session and firmware updates take bytes, entries,
words and chunks only from where there are some, and no difference falls below zero.
-/

namespace DebugProbe

/-- Actions one after the other, whether they succeed or fail, and what each of them gives. -/
def Action.inTurn {σ ε α : Type} :
    List (Action σ ε α) → Action σ Empty (List (Except ε α))
  | [] => return []
  | action :: rest => do
    let result ← action.attempt
    return result :: (← inTurn rest)

namespace Checked

/-- Checked actions one after the other, whether they succeed or fail. -/
def inTurn {σ ε α : Type} : List (Checked σ ε α) → Checked σ Empty (List (Except ε α))
  | [] => return []
  | checked :: rest => do
    let result ← checked.attempt
    return result :: (← inTurn rest)

/-- Where each action stays inside from any state, all of them do so one after the other. -/
theorem Matches.inTurn {σ ε α κ : Type} {checked : κ → Checked σ ε α} {action : κ → Action σ ε α}
    {items : List κ} (each : ∀ item ∈ items, ∀ state, (checked item).Matches (action item) state)
    (state : σ) :
    (inTurn (items.map checked)).Matches (Action.inTurn (items.map action)) state := by
  induction items generalizing state with
  | nil => exact .pure _ _
  | cons item rest ih =>
    refine (each item List.mem_cons_self state).attempt.bind fun result state _ ↦ ?_
    refine (ih (fun other member ↦ each other (List.mem_cons_of_mem _ member)) state).bind
      fun _ _ _ ↦ ?_
    exact .pure _ _

end Checked

namespace Session

variable {σ : Type} [Transport σ]

/-- All that calls do with a transport is a conversation. -/
theorem Reached.conversation {session : Session σ} (reached : session.Reached)
    (calls : List SessionCall) :
    ∃ deeds, Conversation session.link.transport deeds (session.after calls).link.transport := by
  induction calls generalizing session with
  | nil => exact ⟨[], .nil _⟩
  | cons call rest ih =>
    obtain ⟨deeds, step⟩ := reached.sound.exists_step call
    obtain ⟨later, conversation⟩ := ih (.call reached call)
    exact ⟨deeds ++ later, step.conversation.append conversation⟩

end Session

namespace Checked

/-- No answer of a probe makes the library reach outside. Every exchange over every transport, every
list of calls of any session, and every list of updates by any updater has an outcome where each
position, each range and each difference is checked, and it is the outcome of the library. What a
new session does with its transport while it is called is a conversation, so all of it is exchanges,
of which the first part speaks. -/
theorem stays_inside {σ : Type} [Transport σ] {calls : List SessionCall}
    (sized : ∀ call ∈ calls, call.Sized) :
    (∀ (request : Request) (state : σ),
      (exchange request).outcome? state = some ((Probe.exchange request).outcome state)) ∧
    (∀ session : Session σ, (inTurn (calls.map OnSession.call)).outcome? session =
      some ((Action.inTurn (calls.map SessionCall.action)).outcome session)) ∧
    (∀ (transport : σ) (config : Config), ∃ deeds, Conversation transport deeds
      ((Session.new transport config).after calls).link.transport) ∧
    ∀ (images : List FirmwareImage) (updater : Updater σ),
      (inTurn (images.map OnUpdater.update)).outcome? updater =
        some ((Action.inTurn (images.map Updater.update)).outcome updater) := by
  refine ⟨Probe.matches_exchange, fun session ↦ ?_, fun transport config ↦ ?_,
    fun images updater ↦ ?_⟩
  · exact Matches.inTurn (fun call member ↦ Session.matches_call (sized call member)) session
  · have fresh : (Session.new transport config).Reached := .new transport config
    exact fresh.conversation calls
  · exact Matches.inTurn (fun image _ ↦ Updater.matches_update image) updater

/-- A session over a simulated probe that claims in one answer that 200 transfers completed, and in
another one that 65535 words were read. -/
private def lying : Session (Faulty Simulator) :=
  .new ⟨{}, [⟨0x05, 3, .replace [0x05, 200, 0x01]⟩, ⟨0x06, 0, .replace [0x06, 255, 255, 0x02]⟩],
    Vector.replicate 256 0, none⟩ {}

/-- Two reads of memory that get these answers. -/
private def reads : List SessionCall :=
  [.call (.connect none), .call (.readMemory 0x20000001 7), .call (.connect none),
    .call (.readMemory 0x20000000 8)]

/-- What the probe claims is refused, and the reads stay inside. -/
theorem stays_inside_of_lies :
    (∀ call ∈ reads, call.Sized) ∧
    ((Action.inTurn (reads.map SessionCall.action)).outcome lying).1 = .ok [.ok (),
      .error (.operation ⟨.readMemory 0x20000001 7,
        .command (.exchange .transfer (.framing .unexpectedAnswer))⟩), .ok (),
      .error (.operation ⟨.readMemory 0x20000000 8,
        .command (.exchange .transferBlock (.framing .unexpectedAnswer))⟩)] ∧
    (inTurn (reads.map OnSession.call)).outcome? lying =
      some ((Action.inTurn (reads.map SessionCall.action)).outcome lying) := by
  have sized : ∀ call ∈ reads, call.Sized := by
    simp [reads, SessionCall.Sized, UInt32.size]
  exact ⟨sized, by decide +kernel, (stays_inside sized).2.1 lying⟩

end Checked

end DebugProbe
