import DebugProbe.Proofs.Probe.Performing
import DebugProbe.Proofs.Probe.Regime

/-!
# Probes that are not asked

What a probe can do is found out by a few requests and by a change of the packet size, which nothing
else makes. The regime without them goes on as long as none of them is made, and over a recorded
transport it leaves no trace of them.
-/

namespace DebugProbe

/-- Whether the deed neither asks what the probe can do nor changes the packet size. -/
def Deed.Unasking : Deed → Prop
  | turn taken => taken.request.isQuery = false
  | drain => True
  | resize _ => False

/-- Whether the event belongs to finding out what the probe can do: its frame asks for the
capabilities, the packet size, the packet count or the trace buffer size, or it is a change of the
packet size. -/
def WireEvent.Asks : WireEvent → Prop
  | frame bytes => bytes.byteAt 0 = Command.info.code ∧
      bytes.byteAt 1 ∈ [Info.capabilitiesCode, Info.packetSizeCode, Info.packetCountCode,
        Info.traceBufferSizeCode]
  | drain => False
  | packetSize _ => True

/-- Frames of requests other than those of the query do not ask what the probe can do. -/
private theorem not_asks_frame {request : Request} (other : request.isQuery = false) :
    ¬(WireEvent.frame request.frame).Asks := by
  rintro ⟨info, item⟩
  have isInfo : request.command = .info := Command.code_injective info
  cases request with
  | infoText text =>
    have listed : text.code ∈ [Info.capabilitiesCode, Info.packetSizeCode, Info.packetCountCode,
      Info.traceBufferSizeCode] := item
    revert listed
    cases text <;> decide
  | infoCapabilities | infoTraceBufferSize | infoPacketCount | infoPacketSize => nomatch other
  | _ => nomatch isInfo

/-- Deeds that do not ask add no event that does. -/
theorem Deed.Unasking.events {deed : Deed} (unasking : deed.Unasking) {event : WireEvent}
    (member : event ∈ deed.events) : ¬event.Asks := by
  cases deed with
  | turn taken =>
    have only : event ∈ if taken.written then [WireEvent.frame taken.request.frame] else [] :=
      member
    split at only
    · rw [List.mem_singleton.mp only]
      exact not_asks_frame unasking
    · nomatch only
  | drain =>
    rw [List.mem_singleton.mp member]
    exact id
  | resize size => exact unasking.elim

variable {σ : Type} [Transport σ]

/-- The regime in which nothing asks what the probe can do and nothing changes the packet size; any
failure is expected. -/
def Regime.unasking (start : σ) : Regime σ where
  admits request := request.isQuery = false
  holds transport := ∃ deeds, Conversation start deeds transport ∧ ∀ deed ∈ deeds, deed.Unasking
  expects _ := True
  send := by
    rintro request other transport ⟨deeds, before, unasking⟩
    have more {turn : Turn} {next : σ} (isRequest : turn.request = request)
        (leads : turn.Leads transport next) :
        ∃ deeds, Conversation start deeds next ∧ ∀ deed ∈ deeds, deed.Unasking := by
      refine ⟨deeds ++ [.turn turn], before.append (.turn leads (.nil next)), ?_⟩
      rw [List.forall_mem_append, List.forall_mem_singleton]
      refine ⟨unasking, ?_⟩
      show turn.request.isQuery = false
      rw [isRequest]
      exact other
    refine (Probe.yields_request request transport).imp ?_ ?_
    · rintro reply next ⟨written, leads⟩
      exact more rfl leads
    · rintro error next ⟨-, written, cause, leads⟩
      exact ⟨trivial, more rfl leads⟩
  drain := by
    rintro transport ⟨deeds, before, unasking⟩
    refine ⟨deeds ++ [.drain], before.append (.drain (.nil _)), ?_⟩
    rw [List.forall_mem_append, List.forall_mem_singleton]
    exact ⟨unasking, trivial⟩
  ordinary := by
    intro request isOrdinary
    cases request with
    | infoCapabilities | infoTraceBufferSize | infoPacketCount | infoPacketSize =>
      nomatch isOrdinary
    | _ => rfl
  fitting := fun _ _ _ ↦ rfl
  usual := fun _ _ ↦ trivial

end DebugProbe
