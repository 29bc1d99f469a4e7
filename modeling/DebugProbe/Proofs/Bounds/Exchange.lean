import DebugProbe.Line
import DebugProbe.Proofs.Bounds.Decoding
import DebugProbe.Proofs.Bounds.Encoding

/-!
# Exchanges that stay in their buffers

An exchange writes its frame into a buffer of the size of a packet and reads the answer into another
one, of which it hands on as much as was read. Both frames are shown in the log without the zeros at
their ends. Whatever the transport answers, no position is outside of its buffer. So nothing that
is done with a transport reaches outside, since all of it is done by exchanges.
-/

namespace DebugProbe

namespace Checked

variable {σ ε α β : Type}

/-- A reader does what the library does that fails or goes on with the same result. -/
theorem Matches.ofGives {checked : Checked σ ε α} {result : Except ε α}
    (gives : checked.Gives result) (state : σ) : checked.Matches (Action.ofExcept result) state :=
  gives state

/-- What a reader gives is used by what follows. -/
theorem Matches.given {checked : Checked σ ε α} {value : α} {next : α → Checked σ ε β}
    {after : Action σ ε β} {state : σ} (gives : checked.Gives (.ok value))
    (second : (next value).Matches after state) : (checked >>= next).Matches after state := by
  unfold Matches
  rw [outcome?_bind, gives state]
  exact second

/-- Shows a frame in the log, all up to the zeros at its end and some of these. -/
def trace (frame : Bytes) : Checked σ ε Unit := do
  let zeros := frame.reverse.findIdx (· != 0)
  let cut ← minus (frame.length + 1) zeros
  let _ ← part frame 0 (min frame.length (max 1 cut))
  return

theorem gives_trace (frame : Bytes) : (trace frame : Checked σ ε Unit).Gives (.ok ()) := by
  have bound : frame.reverse.findIdx (· != 0) ≤ frame.length := by
    rw [← List.length_reverse]
    exact List.findIdx_le_length
  have inside : min frame.length (max 1 (frame.length + 1 - frame.reverse.findIdx (· != 0))) ≤
      frame.length := Nat.min_le_left _ _
  exact .found (if_pos (by omega)) (.found (if_pos ⟨Nat.zero_le _, inside⟩) (.ok ()))

/-- The answer as it is found in a buffer of a given size, which may be too short for it. -/
def received (capacity : Nat) (reply : Bytes) : Checked σ ε Bytes := do
  let length := min capacity reply.length
  part (reply.take capacity ++ List.replicate (capacity - reply.length) 0) 0 length

theorem gives_received (capacity : Nat) (reply : Bytes) :
    (received capacity reply : Checked σ ε Bytes).Gives (.ok (reply.take capacity)) := by
  have whole : (reply.take capacity).length = min capacity reply.length := List.length_take
  have same : ((reply.take capacity ++ List.replicate (capacity - reply.length) 0).drop 0).take
      (min capacity reply.length - 0) = reply.take capacity := by
    rw [← whole]
    exact List.take_left
  have inside : 0 ≤ min capacity reply.length ∧ min capacity reply.length ≤
      (reply.take capacity ++ List.replicate (capacity - reply.length) 0).length := by
    rw [List.length_append, whole]
    exact ⟨Nat.zero_le _, Nat.le_add_right _ _⟩
  intro state
  unfold received part
  dsimp only
  rw [if_pos inside, same]
  rfl

variable [Transport σ]

/-- Writes a request and reads the answer to it. -/
def exchange (request : Request) : Checked σ ExchangeError request.Response := do
  let size ← ofAction Probe.packetSize
  let encoded ← found (request.encodeInto size)
  let frame ← (ofExcept encoded).mapError .framing
  trace frame
  (ofAction (Transport.write frame)).mapError .transport
  if request.expectsReply then
    let capacity := Probe.bufferSize (← ofAction Probe.packetSize)
    let reply ← (ofAction Transport.read).mapError .transport
    let answer ← received capacity reply
    trace answer
    (decode request answer).mapError .framing
  else (parse request []).mapError .framing

/-- Runs a command. -/
def send (request : Request) : Checked σ CommandError request.Response :=
  (exchange request).mapError (.exchange request.command)

end Checked

namespace Probe

open Checked (Matches)

variable {σ : Type} [Transport σ]

/-- The only request without an answer asks for no bytes of it. -/
private theorem minReplyLength_of_silent {request : Request}
    (silent : ¬request.expectsReply = true) : request.minReplyLength ≤ ([] : Bytes).length := by
  cases request with
  | transferAbort => exact Nat.le_refl 0
  | _ => exact absurd rfl silent

/-- Whatever the transport answers, an exchange stays in its buffers. -/
theorem matches_exchange (request : Request) (state : σ) :
    (Checked.exchange request).Matches (exchange request) state := by
  refine .lift_bind fun size state _ ↦ ?_
  refine .found (request.encodeInto_eq_encode size) ?_
  refine ((Matches.lift _ state).mapError _).bind fun frame state _ ↦ ?_
  refine .given (Checked.gives_trace frame) ?_
  refine ((Matches.lift _ state).mapError _).bind fun _ state _ ↦ ?_
  split
  · refine .lift_bind fun size state _ ↦ ?_
    refine ((Matches.lift _ state).mapError _).bind fun reply state _ ↦ ?_
    refine .given (Checked.gives_received (bufferSize size) reply) ?_
    refine .given (Checked.gives_trace _) ?_
    exact (Matches.ofGives (Checked.gives_decode request _) state).mapError _
  · next silent =>
    have held := minReplyLength_of_silent silent
    exact (Matches.ofGives (Checked.gives_parse request held) state).mapError _

/-- Whatever the transport answers, a command stays in its buffers. -/
theorem matches_send (request : Request) (state : σ) :
    (Checked.send request).Matches (send request) state :=
  (matches_exchange request state).mapError _

end Probe

end DebugProbe
