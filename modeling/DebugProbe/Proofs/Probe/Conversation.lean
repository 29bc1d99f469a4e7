import DebugProbe.Probe.Exchange
import DebugProbe.Proofs.Action
import DebugProbe.Transport.Recorded

/-!
# Conversations

All that the library does with a transport is to exchange frames, to drain it and to change its
packet size. A conversation is the list of these deeds, with what became of every exchange. Over a
recorded transport the conversation determines what is added to the record.
-/

namespace DebugProbe

/-- An exchange that took place. -/
structure Turn where
  request : Request
  /-- Whether the frame was written. One that does not fit into a packet is not. -/
  written : Bool
  result : Except ExchangeError request.Response

/-- What the library does with a transport. -/
inductive Deed where
  | turn (taken : Turn)
  | drain
  | resize (size : Nat)

namespace Turn

/-- The exchange of a request that fits into a packet or not, with its result. -/
def Leads {σ : Type} [Transport σ] (turn : Turn) (before after : σ) : Prop :=
  turn.written = (turn.request.encode (Transport.packetSize before)).isOk ∧
    (Probe.exchange turn.request).outcome before = (turn.result, after)

/-- What an exchange adds to the record. -/
def events (turn : Turn) : List WireEvent :=
  if turn.written then [.frame turn.request.frame] else []

end Turn

/-- What a deed adds to the record. -/
def Deed.events : Deed → List WireEvent
  | turn taken => taken.events
  | drain => [.drain]
  | resize size => [.packetSize size]

/-- The frame that a deed writes, if it writes one. -/
def Deed.frame? : Deed → Option Bytes
  | turn taken => if taken.written then some taken.request.frame else none
  | _ => none

/-- Deeds that lead from one state of a transport to another. -/
inductive Conversation {σ : Type} [Transport σ] : σ → List Deed → σ → Prop
  | nil (state : σ) : Conversation state [] state
  | turn {before next last : σ} {turn : Turn} {deeds : List Deed} (leads : turn.Leads before next)
      (rest : Conversation next deeds last) : Conversation before (.turn turn :: deeds) last
  | drain {before last : σ} {deeds : List Deed}
      (rest : Conversation (Transport.drain before) deeds last) :
      Conversation before (.drain :: deeds) last
  | resize {before last : σ} {size : Nat} {deeds : List Deed}
      (rest : Conversation (Transport.setPacketSize size before) deeds last) :
      Conversation before (.resize size :: deeds) last

namespace Conversation

variable {σ : Type} [Transport σ] {before next last : σ} {deeds later : List Deed}

/-- A conversation may go on where another one ended. -/
theorem append (first : Conversation before deeds next) (second : Conversation next later last) :
    Conversation before (deeds ++ later) last := by
  induction first with
  | nil state => exact second
  | turn leads rest ih => exact .turn leads (ih second)
  | drain rest ih => exact .drain (ih second)
  | resize rest ih => exact .resize (ih second)

end Conversation

/-- A frame that is encoded is the frame of the request. -/
theorem Request.frame_of_encode {request : Request} {packetSize : Nat} {frame : Bytes}
    (encoded : request.encode packetSize = .ok frame) : frame = request.frame :=
  (encode_eq_ok_iff.mp encoded).2.2

namespace Probe

variable {σ : Type} [Transport σ] {before : σ} {request : Request}

/-- An exchange is a turn of a conversation. -/
theorem yields_turn :
    (exchange request).Yields before
      (fun reply next ↦ ∃ written, Turn.Leads ⟨request, written, .ok reply⟩ before next)
      (fun error next ↦ ∃ written, Turn.Leads ⟨request, written, .error error⟩ before next) :=
  Action.yields_iff.mpr ⟨
    fun _ _ outcome ↦ ⟨(request.encode (Transport.packetSize before)).isOk, rfl, outcome⟩,
    fun _ _ outcome ↦ ⟨(request.encode (Transport.packetSize before)).isOk, rfl, outcome⟩⟩

/-- Only a request that fits into a packet is answered. -/
private theorem isOk_encode_of_answered :
    (exchange request).Yields before
      (fun _ _ ↦ (request.encode (Transport.packetSize before)).isOk = true)
      (fun _ _ ↦ True) := by
  unfold exchange packetSize
  simp only [Action.yields_bind, Action.yields_get, Action.yields_pure, Action.yields_mapError]
  cases request.encode (Transport.packetSize before) with
  | error error => trivial
  | ok frame =>
    rw [Action.yields_ofExcept]
    exact Action.yields_iff.mpr ⟨fun _ _ _ ↦ Action.yields_iff.mpr
      ⟨fun _ _ _ ↦ rfl, fun _ _ _ ↦ trivial⟩, fun _ _ _ ↦ trivial⟩

end Probe

/-- An exchange that was answered wrote its frame. -/
theorem Turn.Leads.written {σ : Type} [Transport σ] {turn : Turn} {before next : σ}
    (leads : turn.Leads before next) (answered : turn.result.isOk = true) :
    turn.written = true := by
  obtain ⟨fits, outcome⟩ := leads
  cases reply : turn.result with
  | error error =>
    rw [reply] at answered
    nomatch answered
  | ok reply =>
    rw [fits]
    exact Probe.isOk_encode_of_answered.of_ok (by rw [outcome, ‹turn.result = _›])

namespace Recorded

variable {σ : Type} [Transport σ] {recorded : Recorded σ}

/-- A write is recorded, whether or not it succeeds. -/
theorem history_write (frame : Bytes) :
    (Transport.write frame).Yields recorded
      (fun _ next ↦ next.history = recorded.history ++ [.frame frame])
      (fun _ next ↦ next.history = recorded.history ++ [.frame frame]) :=
  Action.yields_iff.mpr ⟨
    fun _ _ outcome ↦ (congrArg (·.2.history) outcome).symm.trans (history_push _ _),
    fun _ _ outcome ↦ (congrArg (·.2.history) outcome).symm.trans (history_push _ _)⟩

/-- A read leaves the record alone. -/
theorem history_read :
    (Transport.read : Action (Recorded σ) TransportError Bytes).Yields recorded
      (fun _ next ↦ next.history = recorded.history)
      (fun _ next ↦ next.history = recorded.history) :=
  Action.yields_iff.mpr ⟨fun _ _ outcome ↦ (congrArg (·.2.history) outcome).symm,
    fun _ _ outcome ↦ (congrArg (·.2.history) outcome).symm⟩

/-- An exchange records its frame, if there is one to write. -/
theorem history_exchange (request : Request) :
    (Probe.exchange request).Yields recorded
      (fun _ next ↦ next.history = recorded.history ++
        if (request.encode (Transport.packetSize recorded)).isOk then [.frame request.frame]
        else [])
      (fun _ next ↦ next.history = recorded.history ++
        if (request.encode (Transport.packetSize recorded)).isOk then [.frame request.frame]
        else []) := by
  unfold Probe.exchange Probe.packetSize
  simp only [Action.yields_bind, Action.yields_get, Action.yields_pure, Action.yields_mapError]
  cases encoded : request.encode (Transport.packetSize recorded) with
  | error error => exact (List.append_nil _).symm
  | ok frame =>
    obtain rfl := Request.frame_of_encode encoded
    rw [Action.yields_ofExcept]
    refine (history_write request.frame).imp (fun _ written pushed ↦ ?_) fun _ _ pushed ↦ pushed
    rw [Action.yields_ite]
    constructor
    · intro answered
      simp only [Action.yields_bind, Action.yields_get, Action.yields_pure,
        Action.yields_mapError]
      refine history_read.imp (fun reply next same ↦ ?_) fun _ next same ↦ same.trans pushed
      rw [Action.yields_ofExcept]
      split
      · exact same.trans pushed
      · exact same.trans pushed
    · -- A request without an answer reads nothing.
      intro silent
      rw [Action.yields_mapError, Action.yields_ofExcept]
      split
      · exact pushed
      · exact pushed

/-- A turn is recorded by its frame. -/
theorem history_turn {turn : Turn} {next : Recorded σ} (leads : turn.Leads recorded next) :
    next.history = recorded.history ++ turn.events := by
  obtain ⟨fits, outcome⟩ := leads
  have recording := (@history_exchange σ _ recorded turn.request).left
  rw [outcome, ← fits] at recording
  exact recording

/-- The record grows by what the deeds add. -/
theorem history_conversation {deeds : List Deed} {next : Recorded σ}
    (conversation : Conversation recorded deeds next) :
    next.history = recorded.history ++ deeds.flatMap Deed.events := by
  induction conversation with
  | nil state => exact (List.append_nil _).symm
  | turn leads rest ih =>
    rw [ih, history_turn leads, List.append_assoc, List.flatMap_cons, Deed.events]
  | @drain before last deeds rest ih =>
    have pushed : (Transport.drain before).history = before.history ++ [.drain] := history_push _ _
    rw [ih, pushed, List.append_assoc, List.flatMap_cons, Deed.events]
  | @resize before last size deeds rest ih =>
    have pushed : (Transport.setPacketSize size before).history =
        before.history ++ [.packetSize size] := history_push _ _
    rw [ih, pushed, List.append_assoc, List.flatMap_cons, Deed.events]

/-- The deeds lead from one recorded transport to another, and are all that was added to the
record. -/
structure Saw (recorded : Recorded σ) (deeds : List Deed) (next : Recorded σ) : Prop where
  conversation : Conversation recorded deeds next
  history : next.history = recorded.history ++ deeds.flatMap Deed.events

end Recorded

/-- Every conversation over a recorded transport is recorded. -/
theorem Conversation.saw {σ : Type} [Transport σ] {recorded next : Recorded σ} {deeds : List Deed}
    (conversation : Conversation recorded deeds next) : recorded.Saw deeds next :=
  ⟨conversation, Recorded.history_conversation conversation⟩

/-- The frames in the record are those that the deeds wrote. -/
theorem Recorded.Saw.frames {σ : Type} [Transport σ] {recorded next : Recorded σ}
    {deeds : List Deed} (saw : recorded.Saw deeds next) :
    next.frames = recorded.frames ++ deeds.filterMap Deed.frame? := by
  unfold Recorded.frames
  rw [saw.history, List.filterMap_append]
  refine congrArg (_ ++ ·) ?_
  clear saw
  induction deeds with
  | nil => rfl
  | cons deed deeds ih =>
    rw [List.flatMap_cons, List.filterMap_append, ih]
    cases deed with
    | turn taken =>
      cases written : taken.written <;> simp [Deed.events, Turn.events, Deed.frame?, written]
    | drain => rfl
    | resize size => rfl

/-- An exchange adds at most one frame to the record. -/
theorem Recorded.Saw.length_frames_le {σ : Type} [Transport σ] {recorded next : Recorded σ}
    {turns : List Turn} {others : List Deed} (saw : recorded.Saw (turns.map .turn ++ others) next)
    (wordless : others.filterMap Deed.frame? = []) :
    next.frames.length ≤ recorded.frames.length + turns.length := by
  have written : ((turns.map .turn).filterMap Deed.frame?).length ≤ turns.length := by
    refine Nat.le_trans (List.length_filterMap_le _ _) ?_
    exact Nat.le_of_eq (List.length_map Deed.turn)
  rw [saw.frames, List.length_append, List.filterMap_append, wordless, List.append_nil]
  exact Nat.add_le_add_left written _

end DebugProbe
