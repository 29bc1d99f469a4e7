import DebugProbe.Probe.Capabilities
import DebugProbe.Proofs.Probe.Performing
import DebugProbe.Proofs.Probe.Sized
import DebugProbe.Transport.Replay

/-!
# Negotiation of the packet size

The packet size is asked for again as long as the probe stays silent, up to a number of times, and
the transport is switched to the size that the probe gives. Every question of the library takes two
bytes. So it can go on asking unless the probe gives a smaller size: then no question fits into a
packet any more, nor does the one that could correct the size.
-/

namespace DebugProbe

variable {σ : Type} [Transport σ]

/-- A question to the probe fits into two bytes, and into nothing less. -/
theorem Request.isOk_encode_info {query : Request} (isInfo : query.command = .info)
    {packetSize : Nat} : (query.encode packetSize).isOk = true ↔ 2 ≤ packetSize := by
  have shape : query.overflow? packetSize = none ∧ query.frame.length = 2 := by
    cases query <;> first | exact ⟨rfl, rfl⟩ | nomatch isInfo
  constructor
  · intro encoded
    cases outcome : query.encode packetSize with
    | ok frame =>
      obtain ⟨-, fits, -⟩ := encode_eq_ok_iff.mp outcome
      rw [← shape.2]
      exact fits
    | error error =>
      rw [outcome] at encoded
      nomatch encoded
  · intro large
    rw [encode_eq_ok_iff.mpr ⟨shape.1, shape.2 ▸ large, rfl⟩]
    rfl

section Negotiation

namespace Turn

/-- There was no answer in time. -/
def TimedOut (turn : Turn) : Prop := turn.result = .error (.transport .timeout)

/-- Exchanges that ask for the packet size, at most so many, and what comes of them: every one but
the last timed out, and the last one settles the outcome unless the attempts are used up. -/
structure Negotiated (limit : Nat) (turns : List Turn) (outcome : Except CommandError UInt16) :
    Prop where
  few : turns.length ≤ limit
  requests : ∀ turn ∈ turns, turn.request = .infoPacketSize
  again : ∀ turn ∈ turns.dropLast, turn.TimedOut
  ending :
    (∃ size, outcome = .ok size ∧ turns.getLast? = some ⟨.infoPacketSize, true, .ok size⟩) ∨
    (∃ written cause, outcome = .error (.exchange .info cause) ∧ cause ≠ .transport .timeout ∧
      turns.getLast? = some ⟨.infoPacketSize, written, .error cause⟩) ∨
    (outcome = .error .noPacketSize ∧ turns.length = limit ∧ ∀ turn ∈ turns, turn.TimedOut)

theorem negotiated_nil : Negotiated 0 [] (.error .noPacketSize) where
  few := Nat.le_refl 0
  requests := List.forall_mem_nil _
  again := List.forall_mem_nil _
  ending := .inr (.inr ⟨rfl, rfl, List.forall_mem_nil _⟩)

theorem negotiated_found (limit : Nat) (size : UInt16) :
    Negotiated (limit + 1) [⟨.infoPacketSize, true, .ok size⟩] (.ok size) where
  few := Nat.succ_le_succ (Nat.zero_le limit)
  requests := List.forall_mem_singleton.mpr rfl
  again := List.forall_mem_nil _
  ending := .inl ⟨size, rfl, rfl⟩

theorem negotiated_broken (limit : Nat) (written : Bool) {cause : ExchangeError}
    (other : cause ≠ .transport .timeout) :
    Negotiated (limit + 1) [⟨.infoPacketSize, written, .error cause⟩]
      (.error (.exchange .info cause)) where
  few := Nat.succ_le_succ (Nat.zero_le limit)
  requests := List.forall_mem_singleton.mpr rfl
  again := List.forall_mem_nil _
  ending := .inr (.inl ⟨written, cause, rfl, other, rfl⟩)

variable {limit : Nat} {turns : List Turn} {outcome : Except CommandError UInt16}

/-- An attempt that timed out may come before. -/
theorem Negotiated.prepend (negotiated : Negotiated limit turns outcome) (written : Bool) :
    Negotiated (limit + 1) (⟨.infoPacketSize, written, .error (.transport .timeout)⟩ :: turns)
      outcome where
  few := Nat.succ_le_succ negotiated.few
  requests := List.forall_mem_cons.mpr ⟨rfl, negotiated.requests⟩
  again := by
    have later := negotiated.again
    cases turns with
    | nil => exact List.forall_mem_nil _
    | cons next rest =>
      rw [List.dropLast_cons_cons]
      exact List.forall_mem_cons.mpr ⟨rfl, later⟩
  ending := by
    rw [List.getLast?_cons]
    rcases negotiated.ending with ⟨size, found, last⟩ | ⟨last, cause, broken, other, isLast⟩ |
      ⟨exhausted, all, silent⟩
    · exact .inl ⟨size, found, by rw [last]; rfl⟩
    · exact .inr (.inl ⟨last, cause, broken, other, by rw [isLast]; rfl⟩)
    · exact .inr (.inr ⟨exhausted, congrArg (· + 1) all, List.forall_mem_cons.mpr ⟨rfl, silent⟩⟩)

/-- There is a first attempt, unless none is allowed. -/
theorem Negotiated.exists_first (negotiated : Negotiated (limit + 1) turns outcome) :
    ∃ first rest, turns = first :: rest ∧ first.request = .infoPacketSize := by
  cases turns with
  | nil =>
    rcases negotiated.ending with ⟨_, -, none⟩ | ⟨_, _, -, -, none⟩ | ⟨-, none, -⟩
    · nomatch none
    · nomatch none
    · nomatch none
  | cons first rest => exact ⟨first, rest, rfl, negotiated.requests first List.mem_cons_self⟩

end Turn

namespace Probe

/-- One question for the packet size. -/
private theorem yields_ask (state : σ) :
    (send .infoPacketSize).Yields state
      (fun size next ↦ Turn.Leads ⟨.infoPacketSize, true, .ok size⟩ state next)
      (fun error next ↦ ∃ written cause, error = .exchange .info cause ∧
        Turn.Leads ⟨.infoPacketSize, written, .error cause⟩ state next) := by
  unfold send
  rw [Action.yields_mapError]
  refine yields_turn.imp ?_ ?_
  · rintro size next ⟨written, leads⟩
    obtain rfl : written = true := leads.written rfl
    exact leads
  · rintro cause next ⟨written, leads⟩
    exact ⟨written, cause, rfl, leads⟩

/-- The negotiation asks again only after a timeout, stops at anything else, and changes the packet
size exactly if it got one. -/
theorem yields_negotiate (limit : Nat) (state : σ) :
    (negotiate limit).Yields state
      (fun size next ↦ ∃ turns, Turn.Negotiated limit turns (.ok size) ∧
        Conversation state (turns.map .turn ++ [.resize size.toNat]) next)
      (fun error next ↦ ∃ turns, Turn.Negotiated limit turns (.error error) ∧
        Conversation state (turns.map .turn) next) := by
  induction limit generalizing state with
  | zero => exact ⟨[], Turn.negotiated_nil, .nil state⟩
  | succ limit ih =>
    unfold negotiate
    rw [Action.yields_bind, Action.yields_attempt]
    refine (yields_ask state).imp ?_ ?_
    · intro size next leads
      exact ⟨_, Turn.negotiated_found limit size, .turn leads (.resize (.nil _))⟩
    · rintro error next ⟨written, cause, rfl, leads⟩
      have stops (other : cause ≠ .transport .timeout) :
          ∃ turns, Turn.Negotiated (limit + 1) turns (.error (.exchange .info cause)) ∧
            Conversation state (turns.map .turn) next :=
        ⟨_, Turn.negotiated_broken limit written other, .turn leads (.nil next)⟩
      cases cause with
      | framing error => exact stops (by simp)
      | transport error =>
        cases error with
        | disconnected => exact stops (by simp)
        | usb reason => exact stops (by simp)
        | timeout =>
          refine (ih next).imp ?_ ?_
          · rintro size last ⟨turns, negotiated, later⟩
            exact ⟨_, negotiated.prepend written, .turn leads later⟩
          · rintro error last ⟨turns, negotiated, later⟩
            exact ⟨_, negotiated.prepend written, .turn leads later⟩

end Probe

end Negotiation

section Size

/-- The packet size after a deed. -/
def Deed.sized (size : Nat) : Deed → Nat
  | resize new => new
  | _ => size

/-- The packet size changes only as the deeds tell. -/
theorem LastingSize.packetSize_eq (lasting : LastingSize σ) {before next : σ} {deeds : List Deed}
    (conversation : Conversation before deeds next) :
    Transport.packetSize next = deeds.foldl Deed.sized (Transport.packetSize before) := by
  induction conversation with
  | nil state => rfl
  | turn leads rest ih =>
    rw [ih, lasting.turn leads]
    rfl
  | @drain before last deeds rest ih =>
    rw [ih, lasting.drain before]
    rfl
  | @resize before last size deeds rest ih =>
    rw [ih, lasting.resize size before]
    rfl

/-- Exchanges leave the packet size as it was. -/
theorem Deed.sized_turns (turns : List Turn) (size : Nat) :
    (turns.map Deed.turn).foldl Deed.sized size = size := by
  induction turns with
  | nil => rfl
  | cons turn turns ih => exact ih

end Size

namespace Probe

/-- What was asked of a transport while the packet size was sought. -/
theorem yields_findPacketSize (recorded : Recorded σ) :
    findPacketSize.Yields recorded
      (fun size next ↦ ∃ turns, Turn.Negotiated packetSizeAttempts turns (.ok size) ∧
        recorded.Saw (turns.map .turn ++ [.resize size.toNat]) next)
      (fun error next ↦ ∃ turns, Turn.Negotiated packetSizeAttempts turns (.error error) ∧
        recorded.Saw (turns.map .turn) next) :=
  (yields_negotiate packetSizeAttempts recorded).imp
    (fun _ _ ⟨turns, negotiated, conversation⟩ ↦ ⟨turns, negotiated, conversation.saw⟩)
    fun _ _ ⟨turns, negotiated, conversation⟩ ↦ ⟨turns, negotiated, conversation.saw⟩

/-- There is at most one frame for each attempt. -/
theorem findPacketSize_frames (recorded : Recorded σ) :
    (findPacketSize.outcome recorded).2.frames.length ≤
      recorded.frames.length + packetSizeAttempts := by
  have all : findPacketSize.Yields recorded
      (fun _ next ↦ next.frames.length ≤ recorded.frames.length + packetSizeAttempts)
      (fun _ next ↦ next.frames.length ≤ recorded.frames.length + packetSizeAttempts) := by
    refine (yields_findPacketSize recorded).imp ?_ ?_
    · rintro size next ⟨turns, negotiated, saw⟩
      exact Nat.le_trans (saw.length_frames_le rfl) (Nat.add_le_add_left negotiated.few _)
    · rintro error next ⟨turns, negotiated, saw⟩
      rw [← List.append_nil (turns.map Deed.turn)] at saw
      exact Nat.le_trans (saw.length_frames_le rfl) (Nat.add_le_add_left negotiated.few _)
  exact all.left

/-- The packet size becomes the one that was found, or stays. -/
theorem findPacketSize_sets (lasting : LastingSize σ) (state : σ) :
    findPacketSize.Yields state
      (fun size next ↦ Transport.packetSize next = size.toNat)
      (fun _ next ↦ Transport.packetSize next = Transport.packetSize state) := by
  refine (yields_negotiate packetSizeAttempts state).imp ?_ ?_
  · rintro size next ⟨turns, -, conversation⟩
    rw [lasting.packetSize_eq conversation, List.foldl_append]
    rfl
  · rintro error next ⟨turns, -, conversation⟩
    rw [lasting.packetSize_eq conversation, Deed.sized_turns]

/-- A query that found a packet size leaves the transport with it, whatever becomes of the rest. -/
theorem queryCapabilities_sized (lasting : LastingSize σ) (maxClock : UInt32) {state found : σ}
    {size : UInt16} (isFound : findPacketSize.outcome state = (.ok size, found)) :
    Transport.packetSize ((queryCapabilities maxClock).outcome state).2 = size.toNat := by
  have sized : Transport.packetSize found = size.toNat :=
    (findPacketSize_sets lasting state).of_ok isFound
  have kept {turns : List Turn} {next : σ}
      (conversation : Conversation found (turns.map .turn) next) :
      Transport.packetSize next = size.toNat := by
    rw [lasting.packetSize_eq conversation, Deed.sized_turns, sized]
  have rest : (inquire maxClock size).Yields found
      (fun _ next ↦ Transport.packetSize next = size.toNat)
      (fun _ next ↦ Transport.packetSize next = size.toNat) := by
    refine (inquire_stopsOnBreak maxClock size found).imp ?_ ?_
    · rintro _ next ⟨turns, conversation, -⟩
      exact kept conversation
    · rintro _ next ⟨turns, conversation, -⟩
      exact kept conversation
  rw [queryCapabilities_eq, Action.outcome_bind, isFound]
  exact rest.left

/-- A query gets its first question to the probe as soon as one fits into a packet. -/
theorem queryCapabilities_starts (maxClock : UInt32) {recorded : Recorded σ}
    (large : 2 ≤ Transport.packetSize recorded) :
    ∃ later, ((queryCapabilities maxClock).outcome recorded).2.history =
      recorded.history ++ .frame [0x00, 0xFF] :: later := by
  have asked {outcome : Except CommandError UInt16} {turns : List Turn} {next : Recorded σ}
      {others : List Deed} (negotiated : Turn.Negotiated packetSizeAttempts turns outcome)
      (conversation : Conversation recorded (turns.map .turn ++ others) next) :
      ∃ later, next.history = recorded.history ++ .frame [0x00, 0xFF] :: later := by
    have grown := conversation.saw.history
    obtain ⟨⟨request, written, result⟩, rest, rfl, rfl⟩ := negotiated.exists_first
    cases conversation with
    | turn leads later =>
      obtain rfl : written = true := leads.1.trans ((Request.isOk_encode_info rfl).mpr large)
      exact ⟨_, grown⟩
  have all : (queryCapabilities maxClock).Yields recorded
      (fun _ next ↦ ∃ later, next.history = recorded.history ++ .frame [0x00, 0xFF] :: later)
      (fun _ next ↦ ∃ later, next.history = recorded.history ++ .frame [0x00, 0xFF] :: later) := by
    rw [queryCapabilities_eq, Action.yields_bind]
    refine (yields_negotiate packetSizeAttempts recorded).imp ?_ ?_
    · rintro size found ⟨turns, negotiated, before⟩
      have whole {later : List Turn} {last : Recorded σ}
          (after : Conversation found (later.map .turn) last) :
          ∃ later, last.history = recorded.history ++ .frame [0x00, 0xFF] :: later := by
        have conversation := before.append after
        rw [List.append_assoc] at conversation
        exact asked negotiated conversation
      refine (inquire_stopsOnBreak maxClock size found).imp ?_ ?_
      · rintro _ last ⟨later, after, -⟩
        exact whole after
      · rintro _ last ⟨later, after, -⟩
        exact whole after
    · rintro error next ⟨turns, negotiated, conversation⟩
      rw [← List.append_nil (turns.map Deed.turn)] at conversation
      exact asked negotiated conversation
  exact all.left

/-- The search for the packet size leaves a link that can be used. -/
structure LeavesUsable (recorded : Recorded σ) : Prop where
  /-- The probe is asked again only after a timeout, and the packet size is set exactly if one was
  found, to what was found. -/
  negotiated : findPacketSize.Yields recorded
    (fun size next ↦ ∃ turns, Turn.Negotiated packetSizeAttempts turns (.ok size) ∧
      recorded.Saw (turns.map .turn ++ [.resize size.toNat]) next)
    (fun error next ↦ ∃ turns, Turn.Negotiated packetSizeAttempts turns (.error error) ∧
      recorded.Saw (turns.map .turn) next)
  frames : (findPacketSize.outcome recorded).2.frames.length ≤
    recorded.frames.length + packetSizeAttempts
  sets : LastingSize σ → findPacketSize.Yields recorded
    (fun size next ↦ Transport.packetSize next = size.toNat)
    (fun _ next ↦ Transport.packetSize next = Transport.packetSize recorded)
  encodes : findPacketSize.Yields recorded
    (fun size _ ↦ ∀ query : Request, query.command = .info →
      (query.encode size.toNat).isOk = true)
    (fun _ _ ↦ True)
  /-- A query of the capabilities that failed after a packet size was found can be repeated: it gets
  its first question to the probe. -/
  repeats : LastingSize σ → ∀ size found, findPacketSize.outcome recorded = (.ok size, found) →
    ∀ maxClock error last, (queryCapabilities maxClock).outcome recorded = (.error error, last) →
      ∃ later, ((queryCapabilities maxClock).outcome last).2.history =
        last.history ++ .frame [0x00, 0xFF] :: later

/-- The link can be used exactly if the probe does not give a packet size below that of a
question. -/
theorem leavesUsable_iff (recorded : Recorded σ) :
    LeavesUsable recorded ↔
      ∀ size found, findPacketSize.outcome recorded = (.ok size, found) → 2 ≤ size.toNat := by
  constructor
  · intro usable size found isFound
    have encodes := usable.encodes.of_ok isFound
    exact (Request.isOk_encode_info rfl).mp (encodes .infoPacketSize rfl)
  · intro large
    refine ⟨yields_findPacketSize recorded, findPacketSize_frames recorded, ?_, ?_, ?_⟩
    · intro lasting
      exact findPacketSize_sets lasting.recorded recorded
    · refine Action.yields_iff.mpr ⟨fun size found isFound query isInfo ↦ ?_, fun _ _ _ ↦ trivial⟩
      exact (Request.isOk_encode_info isInfo).mpr (large size found isFound)
    · intro lasting size found isFound maxClock error last failed
      have sized := queryCapabilities_sized lasting.recorded maxClock isFound
      rw [failed] at sized
      exact queryCapabilities_starts maxClock (sized ▸ large size found isFound)

/-- A probe that gives zero as its packet size. -/
private def nought : Recorded Replay :=
  ⟨{ answers := [.ok [0x00, 0x02, 0x00, 0x00]] }, #[]⟩

/-- A probe that gives zero as its packet size is believed, and cannot be asked any more. -/
theorem not_leavesUsable_nought : ¬LeavesUsable nought := by
  intro usable
  have isFound : findPacketSize.outcome nought = (.ok 0, (findPacketSize.outcome nought).2) :=
    Prod.ext (by decide +kernel) rfl
  exact nomatch usable.encodes.of_ok isFound .infoPacketSize rfl

end Probe

end DebugProbe
