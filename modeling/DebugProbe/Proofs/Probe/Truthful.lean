import DebugProbe.Probe.Commands
import DebugProbe.Proofs.Action
import DebugProbe.Proofs.Probe.Frames

/-!
# Truthful probes

A probe is truthful if it puts the accesses of a frame to the target, in order and up to the first
one that is refused, and reports what became of them. Nothing is said about which accesses are
refused, what reads give, how answers are padded, or when an exchange breaks off. The host then
learns from a transfer command what happened at the target, or the command fails as broken.
-/

namespace DebugProbe

variable {σ τ : Type} [Transport σ]

namespace Probe

/-- One exchange: a frame goes out and an answer comes back, cut to the size of the buffer. -/
def converse (frame : Bytes) : Action σ TransportError Bytes := do
  Transport.write frame
  let capacity := bufferSize (← packetSize)
  return (← Transport.read).take capacity

/-- A command that is answered encodes its request, exchanges frames and decodes the answer. -/
theorem yields_exchange {request : Request} (answered : request.expectsReply = true)
    {transport : σ} {done : request.Response → σ → Prop} {failed : ExchangeError → σ → Prop} :
    (exchange request).Yields transport done failed ↔
      match request.encode (Transport.packetSize transport) with
      | .ok frame => (converse frame).Yields transport
          (fun reply next ↦ match request.decode reply with
            | .ok response => done response next
            | .error error => failed (.framing error) next)
          (fun error next ↦ failed (.transport error) next)
      | .error error => failed (.framing error) transport := by
  unfold exchange converse packetSize
  simp only [answered, if_true, Action.yields_bind, Action.yields_mapError,
    Action.yields_ofExcept, Action.yields_get, Action.yields_pure]
  cases request.encode (Transport.packetSize transport) with
  | ok frame =>
    dsimp only
    refine Iff.of_eq (congrArg (fun post ↦ Action.Yields _ _ post _) ?_)
    funext _ after
    refine congrArg (fun post ↦ Action.Yields _ _ post _) ?_
    funext reply last
    cases request.decode (reply.take (bufferSize (Transport.packetSize after))) with
    | ok response => rfl
    | error error => rfl
  | error error => exact Iff.rfl

/-- What a command is answered with was read from the payload of an answer. -/
theorem yields_parsed {request : Request} (answered : request.expectsReply = true) (state : σ) :
    (send request).Yields state
      (fun reply _ ↦ ∃ payload, request.parse payload = .ok reply) fun _ _ ↦ True := by
  unfold send
  rw [Action.yields_mapError, yields_exchange answered]
  cases request.encode (Transport.packetSize state) with
  | error error => trivial
  | ok frame =>
    refine Action.yields_iff.mpr ⟨fun reply next _ ↦ ?_, fun _ _ _ ↦ trivial⟩
    cases decoded : request.decode reply with
    | error error => trivial
    | ok response =>
      obtain ⟨code, payload, -, -, parsed⟩ := Request.parse_of_decode decoded
      exact ⟨payload, parsed⟩

end Probe

/-- The probe behind a transport carries accesses out as a model says and reports them truthfully;
`view` is what is observed of the target, `ready` the states in which frames can be exchanged. An
exchange that breaks off gives no answer or the answer to another command, and leaves the transport
in a state that is `broken`. -/
structure TruthfulProbe (model : TargetModel τ) (view : σ → τ) (ready broken : σ → Prop) :
    Prop where
  converse : ∀ {transport : σ} {frame : Bytes}, ready transport → Frame.IsAccess frame →
    (Probe.converse frame).Yields transport
      (fun reply next ↦
        (ready next ∧ Transport.packetSize next = Transport.packetSize transport ∧
          ∃ data status padding,
            model.Answers (Frame.accesses frame) (view transport) data status (view next) ∧
            reply = (Frame.report frame data status ++ padding).take
              (Probe.bufferSize (Transport.packetSize transport))) ∨
        (model.breaks ∧ broken next ∧ reply.head? ≠ frame.head? ∧
          model.Interrupted (Frame.accesses frame) (view transport) (view next)))
      (fun _ next ↦ model.breaks ∧ broken next ∧
        model.Interrupted (Frame.accesses frame) (view transport) (view next))

/-- What a truthful probe did when it answered: it put accesses to the target, and is ready for the
next frame. -/
def Probe.Answered (model : TargetModel τ) (view : σ → τ) (ready : σ → Prop)
    (transfers : List Transfer) (transport : σ) (data : List (Option UInt32)) (status : UInt8)
    (next : σ) : Prop :=
  ready next ∧ Transport.packetSize next = Transport.packetSize transport ∧
    model.Answers (transfers.map Transfer.onWire) (view transport) data status (view next)

/-- What a truthful probe may have done when the exchange broke off. -/
def Probe.Broken (model : TargetModel τ) (view : σ → τ) (ready broken : σ → Prop)
    (transfers : List Transfer) (fits : Prop) (transport next : σ) : Prop :=
  (fits → model.breaks) ∧ (ready next ∨ broken next) ∧
    model.Interrupted (transfers.map Transfer.onWire) (view transport) (view next)

/-- A transfer command fits into a packet, and so does the answer to it. -/
def TransferRequest.Fits (request : TransferRequest) (packetSize : Nat) : Prop :=
  request.transfers.length ≤ TransferRequest.maxCount ∧
    request.requestSize ≤ packetSize ∧ request.replySize ≤ packetSize

/-- A block command fits into a packet, and so does the answer to it. -/
def BlockRequest.Fits (request : BlockRequest) (packetSize : Nat) : Prop :=
  5 + 4 * request.access.words.length ≤ packetSize ∧
    4 + 4 * request.transfers.length ≤ Probe.bufferSize packetSize

/-- A frame that begins with another code is no answer. -/
theorem Request.decode_of_head {request : Request} {reply : Bytes}
    (other : reply.head? ≠ request.frame.head?) : ∃ error, request.decode reply = .error error := by
  cases reply with
  | nil => exact ⟨_, rfl⟩
  | cons code payload =>
    have mismatch : code ≠ request.command.code := by
      intro same
      rw [same] at other
      exact other rfl
    unfold decode
    exact ⟨_, if_pos mismatch⟩

/-- A request whose counts are in range is encoded exactly if its frame fits into a packet. -/
theorem Request.encode_of_overflow {request : Request} {packetSize : Nat}
    (inRange : request.overflow? packetSize = none) :
    request.frame.length ≤ packetSize ∧ request.encode packetSize = .ok request.frame ∨
      packetSize < request.frame.length ∧ ∃ error, request.encode packetSize = .error error := by
  by_cases fits : request.frame.length ≤ packetSize
  · left
    exact ⟨fits, encode_eq_ok_iff.mpr ⟨inRange, fits, rfl⟩⟩
  · right
    have large : packetSize < request.frame.length := Nat.lt_of_not_le fits
    obtain ⟨_, _, refused⟩ := encode_eq_error_iff.mpr fun _ ↦ large
    exact ⟨large, _, refused⟩

namespace TruthfulProbe

variable {model : TargetModel τ} {view : σ → τ} {ready broken : σ → Prop}

/-- Commands of accesses have one contract: an answer tells what happened, and a failure means that
the exchange broke off or that a frame did not fit. -/
private theorem exchange (probe : TruthfulProbe model view ready broken) {transport : σ}
    (isReady : ready transport) (request : Request) (answered : request.expectsReply = true)
    (isAccess : Frame.IsAccess request.frame) {transfers : List Transfer} {fits : Prop}
    (response : List (Option UInt32) → UInt8 → request.Response)
    (codec : (request.encode (Transport.packetSize transport) = .ok request.frame ∧
        Frame.accesses request.frame = transfers.map Transfer.onWire ∧
        ∀ (data : List (Option UInt32)) (status : UInt8) (padding : Bytes),
          data.map Option.isSome = (transfers.take data.length).map Transfer.isRead →
          data.length ≤ transfers.length →
          match request.decode ((Frame.report request.frame data status ++ padding).take
            (Probe.bufferSize (Transport.packetSize transport))) with
          | .ok reply => reply = response data status
          | .error _ => ¬fits) ∨
      (∃ error, request.encode (Transport.packetSize transport) = .error error) ∧ ¬fits) :
    (Probe.exchange request).Yields transport
      (fun reply next ↦ ∃ data status, reply = response data status ∧
        Probe.Answered model view ready transfers transport data status next)
      (fun _ next ↦ Probe.Broken model view ready broken transfers fits transport next) := by
  rw [Probe.yields_exchange answered]
  rcases codec with ⟨encoded, accesses, decode⟩ | ⟨⟨error, refused⟩, large⟩
  · rw [encoded]
    refine (probe.converse isReady isAccess).imp ?_ ?_
    · intro reply next outcome
      rw [accesses] at outcome
      rcases outcome with ⟨still, size, data, status, padding, answers, rfl⟩ |
        ⟨breaks, left, other, part⟩
      · have kinds := answers.isSome_words
        rw [← List.map_take, List.map_map] at kinds
        have le := answers.length_le
        rw [List.length_map] at le
        have decoded := decode data status padding kinds le
        split at decoded
        · exact ⟨data, status, decoded, still, size, answers⟩
        · exact ⟨fun fits ↦ absurd fits decoded, .inl still, _, data, status, List.prefix_rfl,
            answers⟩
      · obtain ⟨error, read⟩ := Request.decode_of_head other
        rw [read]
        exact ⟨fun _ ↦ breaks, .inr left, part⟩
    · intro error next outcome
      rw [accesses] at outcome
      exact ⟨fun _ ↦ outcome.1, .inr outcome.2.1, outcome.2.2⟩
  · rw [refused]
    exact ⟨fun fits ↦ absurd fits large, .inl isReady, .refl _ _⟩

/-- A transfer command tells what became of its accesses, or breaks. -/
theorem transfer (probe : TruthfulProbe model view ready broken) {transport : σ}
    (isReady : ready transport) (request : TransferRequest) :
    (Probe.transfer request).Yields transport
      (fun reply next ↦ ∃ data status, reply = ⟨data.length, .ofByte status, data⟩ ∧
        Probe.Answered model view ready request.transfers transport data status next)
      (fun error next ↦ error.isBroken = true ∧ Probe.Broken model view ready broken
        request.transfers (request.Fits (Transport.packetSize transport)) transport next) := by
  unfold Probe.transfer Probe.send
  rw [Action.yields_mapError]
  refine (probe.exchange isReady (.transfer request) rfl (.inl rfl)
    (fun data status ↦ ⟨data.length, .ofByte status, data⟩) ?_).imp
    (fun _ _ outcome ↦ outcome) (fun _ _ outcome ↦ ⟨rfl, outcome⟩)
  by_cases few : request.transfers.length ≤ TransferRequest.maxCount
  · have inRange : (Request.transfer request).overflow? (Transport.packetSize transport) = none :=
      if_neg (Nat.not_lt.mpr few)
    rcases Request.encode_of_overflow inRange with ⟨small, encoded⟩ | ⟨large, refused⟩
    · refine .inl ⟨encoded, Frame.accesses_transfer few, fun data status padding kinds le ↦ ?_⟩
      have header : 3 ≤ Probe.bufferSize (Transport.packetSize transport) :=
        Nat.le_trans (by decide) (Nat.le_max_right _ 64)
      have decoded := Frame.decode_transfer kinds le few status padding header
      split at decoded
      · next reply read =>
        rw [read]
        exact decoded
      · next error read =>
        rw [read]
        intro fits
        have := Nat.le_trans fits.2.2 (Nat.le_max_left _ 64)
        exact absurd decoded (Nat.not_lt.mpr this)
    · rw [Frame.length_transfer] at large
      exact .inr ⟨refused, fun fits ↦ Nat.not_le.mpr large fits.2.1⟩
  · have refused : ∃ error, (Request.transfer request).encode (Transport.packetSize transport) =
        .error error := by
      have many : (Request.transfer request).overflow? (Transport.packetSize transport) =
          some (.frameTooLarge request.requestSize (Transport.packetSize transport)) :=
        if_pos (Nat.lt_of_not_le few)
      obtain ⟨_, _, refused⟩ := Request.encode_eq_error_iff.mpr fun inRange ↦
        absurd (many.symm.trans inRange) (Option.some_ne_none _)
      exact ⟨_, refused⟩
    exact .inr ⟨refused, fun fits ↦ few fits.1⟩

/-- A block command tells what became of its accesses, or breaks. -/
theorem transferBlock (probe : TruthfulProbe model view ready broken) {transport : σ}
    (isReady : ready transport) (request : BlockRequest)
    (few : request.access.words.length ≤ 65535) :
    (Probe.transferBlock request).Yields transport
      (fun reply next ↦ ∃ data status,
        reply = ⟨data.length, .ofByte status, data.filterMap id⟩ ∧
        Probe.Answered model view ready request.transfers transport data status next)
      (fun error next ↦ error.isBroken = true ∧ Probe.Broken model view ready broken
        request.transfers (request.Fits (Transport.packetSize transport)) transport next) := by
  unfold Probe.transferBlock Probe.send
  rw [Action.yields_mapError]
  refine (probe.exchange isReady (.transferBlock request) rfl (.inr rfl)
    (fun data status ↦ ⟨data.length, .ofByte status, data.filterMap id⟩) ?_).imp
    (fun _ _ outcome ↦ outcome) (fun _ _ outcome ↦ ⟨rfl, outcome⟩)
  have inRange :
      (Request.transferBlock request).overflow? (Transport.packetSize transport) = none := rfl
  rcases Request.encode_of_overflow inRange with ⟨small, encoded⟩ | ⟨large, refused⟩
  · refine .inl ⟨encoded, Frame.accesses_transferBlock few,
      fun data status padding kinds le ↦ ?_⟩
    have header : 4 ≤ Probe.bufferSize (Transport.packetSize transport) :=
      Nat.le_trans (by decide) (Nat.le_max_right _ 64)
    have decoded := Frame.decode_transferBlock kinds le few status padding header
    split at decoded
    · next reply read =>
      rw [read]
      exact decoded
    · next error read =>
      rw [read]
      intro fits
      exact absurd decoded.2 (Nat.not_lt.mpr fits.2)
  · rw [Frame.length_transferBlock] at large
    exact .inr ⟨refused, fun fits ↦ Nat.not_le.mpr large fits.1⟩

end TruthfulProbe

end DebugProbe
