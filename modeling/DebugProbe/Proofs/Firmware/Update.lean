import DebugProbe.Proofs.Firmware.Course

/-!
# What an update does

Whatever the transport does, the exchanges of an update are those of an update's course. It succeeds
exactly if the reboot was granted; otherwise it fails at the first step that was not granted and
reports the stage of that step.
-/

namespace DebugProbe

/-- The exchange that a deed is, if it is one. -/
def Deed.turn? : Deed → Option Turn
  | .turn taken => some taken
  | _ => none

/-- Exchanges lead from one state of a transport to another, with nothing but drains and changes of
the packet size in between. -/
def Exchanged {σ : Type} [Transport σ] (before : σ) (turns : List Turn) (after : σ) : Prop :=
  ∃ deeds, Conversation before deeds after ∧ deeds.filterMap Deed.turn? = turns

namespace Exchanged

variable {σ : Type} [Transport σ] {before middle after : σ} {turns later : List Turn}

theorem nil (state : σ) : Exchanged state [] state := ⟨[], .nil state, rfl⟩

theorem append (first : Exchanged before turns middle) (second : Exchanged middle later after) :
    Exchanged before (turns ++ later) after := by
  obtain ⟨deeds, conversation, rfl⟩ := first
  obtain ⟨more, rest, rfl⟩ := second
  exact ⟨deeds ++ more, conversation.append rest, List.filterMap_append⟩

/-- The frame of an exchange that was answered was written. -/
theorem written (exchanged : Exchanged before turns after) :
    ∀ turn ∈ turns, turn.result.isOk = true → turn.written = true := by
  obtain ⟨deeds, conversation, rfl⟩ := exchanged
  induction conversation with
  | nil state => exact List.forall_mem_nil _
  | turn leads rest ih =>
    intro turn member answered
    rcases List.mem_cons.mp member with rfl | later
    · exact leads.written answered
    · exact ih turn later answered
  | drain rest ih => exact ih
  | resize rest ih => exact ih

/-- The frames of the exchanges are recorded, as far as they were written. -/
theorem frames {recorded next : Recorded σ} (exchanged : Exchanged recorded turns next) :
    next.frames = recorded.frames ++ (turns.filter (·.written)).map (·.request.frame) := by
  obtain ⟨deeds, conversation, rfl⟩ := exchanged
  unfold Recorded.frames
  rw [Recorded.history_conversation conversation, List.filterMap_append]
  congr 1
  clear conversation
  induction deeds with
  | nil => rfl
  | cons deed deeds ih =>
    rw [List.flatMap_cons, List.filterMap_append, ih]
    cases deed with
    | turn taken =>
      cases wrote : taken.written <;> simp [Deed.events, Turn.events, Deed.turn?, wrote]
    | drain => rfl
    | resize size => rfl

end Exchanged

/-- Requests were sent in order, and all of them before the last one were granted. -/
structure Stepped {σ : Type} [Transport σ] (image : FirmwareImage) (requests : List Request)
    (before : σ) (front : List Turn) (last : Turn) (after : σ) : Prop where
  exchanged : Exchanged before (front ++ [last]) after
  ordered : (front ++ [last]).map (·.request) <+: requests
  granted : ∀ turn ∈ front, turn.Granted image

namespace Stepped

variable {σ : Type} [Transport σ] {image : FirmwareImage} {before middle after : σ}
  {requests : List Request} {turns front : List Turn} {last : Turn}

theorem single {request : Request} (exchanged : Exchanged before [last] after)
    (isRequest : last.request = request) (rest : List Request) :
    Stepped image (request :: rest) before [] last after where
  exchanged := exchanged
  ordered := by
    subst isRequest
    exact List.cons_prefix_cons.mpr ⟨rfl, List.nil_prefix⟩
  granted := List.forall_mem_nil _

/-- The last request is one of those that were to be sent. -/
theorem mem (stepped : Stepped image requests before front last after) :
    last.request ∈ requests :=
  stepped.ordered.subset (List.mem_map_of_mem (List.mem_append_right front List.mem_cons_self))

/-- Requests that were all granted may come before. -/
theorem prepend (stepped : Stepped image requests middle front last after)
    (exchanged : Exchanged before turns middle) {early : List Request}
    (sent : turns.map (·.request) = early) (granted : ∀ turn ∈ turns, turn.Granted image) :
    Stepped image (early ++ requests) before (turns ++ front) last after where
  exchanged := by
    rw [List.append_assoc]
    exact exchanged.append stepped.exchanged
  ordered := by
    rw [List.append_assoc, List.map_append, sent]
    exact (List.prefix_append_right_inj early).mpr stepped.ordered
  granted := fun turn member ↦ (List.mem_append.mp member).elim (granted turn)
    (stepped.granted turn)

end Stepped

namespace Updater

variable {σ : Type} [Transport σ] {image : FirmwareImage} {updater : Updater σ}

/-- A command of an update is one exchange. -/
theorem yields_send (request : Request) :
    (send request).Yields updater
      (fun reply next ↦ ∃ written transport, next = { updater with transport } ∧
        Exchanged updater.transport [⟨request, written, .ok reply⟩] transport)
      (fun _ next ↦ ∃ written error transport, next = { updater with transport } ∧
        Exchanged updater.transport [⟨request, written, .error error⟩] transport) := by
  unfold send onProbe Probe.send
  rw [Action.yields_mapError, Action.yields_within, Action.yields_mapError]
  refine Probe.yields_turn.imp ?_ ?_
  · rintro reply transport ⟨written, leads⟩
    exact ⟨written, transport, rfl, [.turn _], .turn leads (.nil transport), rfl⟩
  · rintro error transport ⟨written, leads⟩
    exact ⟨written, error, transport, rfl, [.turn _], .turn leads (.nil transport), rfl⟩

/-- A step goes on exactly if its request is granted. -/
private theorem yields_step (image : FirmwareImage) (request : Request)
    {next : request.Response → Action (Updater σ) FirmwareError Unit}
    {done : Unit → Updater σ → Prop} {failed : FirmwareError → Updater σ → Prop}
    (goesOn : ∀ reply turn transport, turn.request = request → turn.Granted image →
      request.Grants image reply → Exchanged updater.transport [turn] transport →
      (next reply).Yields { updater with transport } done failed)
    (refuses : ∀ reply, ¬request.Grants image reply → ∀ updater : Updater σ,
      (next reply).Yields updater (fun _ _ ↦ False) (fun _ last ↦ last = updater))
    (stops : ∀ error turn transport, turn.request = request → ¬turn.Granted image →
      Exchanged updater.transport [turn] transport → failed error { updater with transport }) :
    (send request >>= next).Yields updater done failed := by
  rw [Action.yields_bind]
  refine (yields_send request).imp ?_ ?_
  · rintro reply _ ⟨written, transport, rfl, exchanged⟩
    by_cases grants : request.Grants image reply
    · exact goesOn reply _ transport rfl ⟨reply, rfl, grants⟩ grants exchanged
    · refine (refuses reply grants _).imp (fun _ _ never ↦ never.elim) ?_
      rintro error _ rfl
      refine stops error _ transport rfl ?_ exchanged
      rintro ⟨answer, same, granted⟩
      exact grants (Except.ok.inj same ▸ granted)
  · rintro error _ ⟨written, cause, transport, rfl, exchanged⟩
    refine stops error _ transport rfl ?_ exchanged
    rintro ⟨answer, same, -⟩
    nomatch same

omit [Transport σ] in
/-- A status is accepted exactly if it is not an error. -/
private theorem yields_accept {command : Command} {status : Status}
    {done : Unit → Updater σ → Prop} {failed : FirmwareError → Updater σ → Prop} :
    (accept command status).Yields updater done failed ↔
      (status = .ok → done () updater) ∧
        (status = .error → failed (.rejected command) updater) := by
  cases status with
  | ok => exact ⟨fun accepted ↦ ⟨fun _ ↦ accepted, nofun⟩, fun accepted ↦ accepted.1 rfl⟩
  | error => exact ⟨fun refused ↦ ⟨nofun, fun _ ↦ refused⟩, fun refused ↦ refused.2 rfl⟩

/-- Chunks are written one after the other as long as they are granted. -/
private theorem yields_writeChunks (image : FirmwareImage) (chunks : List FirmwareChunk)
    (updater : Updater σ) :
    (writeChunks chunks).Yields updater
      (fun _ next ↦ ∃ turns transport, next = { updater with transport } ∧
        Exchanged updater.transport turns transport ∧
        turns.map (·.request) = chunks.map .writeChunk ∧ ∀ turn ∈ turns, turn.Granted image)
      (fun _ next ↦ ∃ front last transport, next = { updater with transport } ∧
        Stepped image (chunks.map .writeChunk) updater.transport front last transport ∧
        ¬last.Granted image) := by
  induction chunks generalizing updater with
  | nil => exact ⟨[], updater.transport, rfl, .nil _, rfl, List.forall_mem_nil _⟩
  | cons chunk rest ih =>
    refine yields_step image (.writeChunk chunk) ?_ ?_ ?_
    · rintro reply turn transport isChunk granted rfl exchanged
      rw [Action.yields_bind, yields_accept]
      refine ⟨fun _ ↦ ?_, nofun⟩
      rw [Action.yields_ite]
      refine ⟨fun other ↦ absurd rfl other, fun _ ↦ (ih { updater with transport }).imp ?_ ?_⟩
      · rintro _ _ ⟨turns, last, rfl, later, requests, all⟩
        refine ⟨turn :: turns, last, rfl, exchanged.append later, ?_, ?_⟩
        · rw [List.map_cons, List.map_cons, isChunk, requests]
        · exact List.forall_mem_cons.mpr ⟨granted, all⟩
      · rintro error _ ⟨front, last, final, rfl, stepped, refused⟩
        exact ⟨[turn] ++ front, last, final, rfl,
          stepped.prepend exchanged (congrArg ([·]) isChunk)
            (List.forall_mem_singleton.mpr granted), refused⟩
    · intro reply refused updater
      rw [Action.yields_bind, yields_accept]
      refine ⟨fun ok ↦ ?_, fun _ ↦ rfl⟩
      rw [Action.yields_ite]
      refine ⟨fun _ ↦ rfl, fun same ↦ (refused ?_).elim⟩
      cases reply with
      | mk status offset =>
        cases ok
        exact congrArg (ChunkReply.mk .ok) (Decidable.byContradiction same)
    · intro error turn transport isChunk refused exchanged
      exact ⟨[], turn, transport, rfl, .single exchanged isChunk _, refused⟩

/-- Handshakes that are missed are repeated as long as attempts are left. -/
private theorem yields_awaitHandshake (total attempts : Nat) (updater : Updater σ) :
    (awaitHandshake total attempts).Yields updater
      (fun handshake next ↦ handshake.status = .ok ∧ ∃ missed written transport,
        next = { updater with transport } ∧ missed.length < attempts ∧
        (∀ turn ∈ missed, turn.Missed) ∧
        Exchanged updater.transport (missed ++ [⟨.handshake, written, .ok handshake⟩]) transport)
      (fun _ next ↦ ∃ missed transport, next = { updater with transport } ∧
        missed.length = attempts ∧ (∀ turn ∈ missed, turn.Missed) ∧
        Exchanged updater.transport missed transport) := by
  induction attempts generalizing updater with
  | zero => exact ⟨[], updater.transport, rfl, rfl, List.forall_mem_nil _, .nil _⟩
  | succ attempts ih =>
    -- What comes after a missed handshake.
    have again {turn : Turn} {transport : σ} (isMissed : turn.Missed)
        (exchanged : Exchanged updater.transport [turn] transport) :
        (awaitHandshake total attempts).Yields { updater with transport }
          (fun handshake next ↦ handshake.status = .ok ∧ ∃ missed written transport,
            next = { updater with transport } ∧ missed.length < attempts + 1 ∧
            (∀ turn ∈ missed, turn.Missed) ∧
            Exchanged updater.transport (missed ++ [⟨.handshake, written, .ok handshake⟩])
              transport)
          (fun _ next ↦ ∃ missed transport, next = { updater with transport } ∧
            missed.length = attempts + 1 ∧ (∀ turn ∈ missed, turn.Missed) ∧
            Exchanged updater.transport missed transport) := by
      refine (ih { updater with transport }).imp ?_ ?_
      · rintro handshake _ ⟨ok, missed, written, last, rfl, few, all, later⟩
        exact ⟨ok, turn :: missed, written, last, rfl, Nat.succ_lt_succ few,
          List.forall_mem_cons.mpr ⟨isMissed, all⟩, exchanged.append later⟩
      · rintro error _ ⟨missed, last, rfl, all, every, later⟩
        exact ⟨turn :: missed, last, rfl, congrArg (· + 1) all,
          List.forall_mem_cons.mpr ⟨isMissed, every⟩, exchanged.append later⟩
    unfold awaitHandshake onProbe Probe.send
    rw [Action.yields_bind, Action.yields_attempt, Action.yields_within, Action.yields_mapError]
    refine Probe.yields_turn.imp ?_ ?_
    · rintro handshake transport ⟨written, leads⟩
      have exchanged : Exchanged updater.transport [⟨.handshake, written, .ok handshake⟩]
          transport := ⟨[.turn _], .turn leads (.nil transport), rfl⟩
      dsimp only
      split
      · next ok =>
        exact ⟨ok, [], written, transport, rfl, Nat.succ_pos _, List.forall_mem_nil _, exchanged⟩
      · next refused =>
        refine again ⟨written, _, rfl, fun reply same ↦ ?_⟩ exchanged
        rw [← Except.ok.inj same]
        exact refused
    · rintro error transport ⟨written, leads⟩
      have exchanged : Exchanged updater.transport [⟨.handshake, written, .error error⟩]
          (Transport.drain transport) :=
        ⟨[.turn _, .drain], .turn leads (.drain (.nil _)), rfl⟩
      dsimp only
      rw [Action.yields_bind]
      exact again ⟨written, .error error, rfl, fun _ same ↦ nomatch same⟩ exchanged

/-- The requests after the handshakes. -/
def remaining (image : FirmwareImage) (size : Nat) : List Request :=
  (image.chunks size).map .writeChunk ++ [.checksum (UInt32.ofNat image.data.length), .reboot]

/-- The checksum is compared before the reboot is sent. -/
private theorem yields_verify (image : FirmwareImage) (updater : Updater σ) :
    (do
      let reply ← send (.checksum (UInt32.ofNat image.data.length))
      accept .firmwareChecksum reply.status
      if reply.crc ≠ image.checksum then throw (.checksumMismatch image.checksum reply.crc)
      accept .bootloaderReboot (← send .reboot) : Action (Updater σ) FirmwareError Unit).Yields
      updater
      (fun _ next ↦ ∃ front last transport, next = { updater with transport } ∧
        Stepped image [.checksum (UInt32.ofNat image.data.length), .reboot] updater.transport front
          last transport ∧ last.request = .reboot ∧ last.Granted image)
      (fun _ next ↦ ∃ front last transport, next = { updater with transport } ∧
        Stepped image [.checksum (UInt32.ofNat image.data.length), .reboot] updater.transport front
          last transport ∧ ¬last.Granted image) := by
  refine yields_step image (.checksum (UInt32.ofNat image.data.length)) ?_ ?_ ?_
  · rintro reply turn middle isSum granted rfl exchanged
    rw [Action.yields_bind, yields_accept]
    refine ⟨fun _ ↦ ?_, nofun⟩
    rw [Action.yields_ite]
    refine ⟨fun other ↦ absurd rfl other, fun _ ↦ ?_⟩
    have stepped {last : Turn} {transport : σ} (isReboot : last.request = .reboot)
        (later : Exchanged middle [last] transport) :
        Stepped image [.checksum (UInt32.ofNat image.data.length), .reboot] updater.transport
          [turn] last transport :=
      (Stepped.single later isReboot []).prepend exchanged (congrArg ([·]) isSum)
        (List.forall_mem_singleton.mpr granted)
    refine yields_step image .reboot ?_ ?_ ?_
    · rintro status last transport isReboot rebooted rfl later
      exact ⟨[turn], last, transport, rfl, stepped isReboot later, isReboot, rebooted⟩
    · intro status refused updater
      rw [yields_accept]
      exact ⟨fun ok ↦ (refused ok).elim, fun _ ↦ rfl⟩
    · intro error last transport isReboot refused later
      exact ⟨[turn], last, transport, rfl, stepped isReboot later, refused⟩
  · intro reply refused updater
    rw [Action.yields_bind, yields_accept]
    refine ⟨fun ok ↦ ?_, fun _ ↦ rfl⟩
    rw [Action.yields_ite]
    refine ⟨fun _ ↦ rfl, fun same ↦ (refused ?_).elim⟩
    cases reply with
    | mk status crc =>
      cases ok
      exact congrArg (ChecksumReply.mk .ok) (Decidable.byContradiction same)
  · intro error turn transport isSum refused exchanged
    exact ⟨[], turn, transport, rfl, .single exchanged isSum _, refused⟩

/-- The chunks are written before the checksum is compared, and each of these steps fails in its own
stage. -/
private theorem yields_transfer (image : FirmwareImage) (size : Nat) (updater : Updater σ) :
    (do
      writeChunks (image.chunks size)
      enter .verifying
      let reply ← send (.checksum (UInt32.ofNat image.data.length))
      accept .firmwareChecksum reply.status
      if reply.crc ≠ image.checksum then throw (.checksumMismatch image.checksum reply.crc)
      accept .bootloaderReboot (← send .reboot) : Action (Updater σ) FirmwareError Unit).Yields
      { updater with stage := .transferring }
      (fun _ next ↦ ∃ front last, Stepped image (remaining image size) updater.transport front last
        next.transport ∧ last.request = .reboot ∧ last.Granted image)
      (fun _ next ↦ ∃ front last, Stepped image (remaining image size) updater.transport front last
        next.transport ∧ ¬last.Granted image ∧ last.request.updateStage? = some next.stage) := by
  rw [Action.yields_bind]
  refine (yields_writeChunks image (image.chunks size) _).imp ?_ ?_
  · rintro _ _ ⟨turns, middle, rfl, exchanged, sent, granted⟩
    rw [Action.yields_bind, enter, Action.yields_update]
    refine (yields_verify image _).imp ?_ ?_
    · rintro _ _ ⟨front, last, transport, rfl, stepped, isReboot, rebooted⟩
      exact ⟨turns ++ front, last, stepped.prepend exchanged sent granted, isReboot, rebooted⟩
    · rintro error _ ⟨front, last, transport, rfl, stepped, refused⟩
      refine ⟨turns ++ front, last, stepped.prepend exchanged sent granted, refused, ?_⟩
      rcases List.mem_pair.mp stepped.mem with isSum | isReboot
      · rw [isSum]
        rfl
      · rw [isReboot]
        rfl
  · rintro error _ ⟨front, last, transport, rfl, stepped, refused⟩
    refine ⟨front, last, ⟨stepped.exchanged, ?_, stepped.granted⟩, refused, ?_⟩
    · exact stepped.ordered.trans (List.prefix_append _ _)
    · obtain ⟨chunk, -, isChunk⟩ := List.mem_map.mp stepped.mem
      rw [← isChunk]
      rfl

/-- The steps after the handshakes cut the image to the size of chunks that the configuration, the
last handshake and the packets after it allow. -/
def Cut (image : FirmwareImage) (configured : Nat) (before : σ) (opening steps : List Turn)
    (after : σ) : Prop :=
  ∃ (earlier : List Turn) (handshake : Handshake) (written : Bool) (ready : σ),
    opening = earlier ++ [⟨.handshake, written, .ok handshake⟩] ∧
    handshake.status = .ok ∧ image.data.length ≤ handshake.maxImageSize.toNat ∧
    Exchanged before opening ready ∧ Exchanged ready steps after ∧
    steps.map (·.request) <+: remaining image
      (chunkSize configured handshake.chunkSize.toNat (Transport.packetSize ready))

/-- The exchanges of an update, the last one apart. -/
structure Ran (image : FirmwareImage) (config : FirmwareConfig) (before : σ) (front : List Turn)
    (last : Turn) (after : σ) : Prop where
  exchanged : Exchanged before (front ++ [last]) after
  phases : ∃ entry shakes steps, front ++ [last] = entry :: (shakes ++ steps) ∧
    UpdatePhases image config.handshakeAttempts entry shakes steps ∧
    (steps ≠ [] → Cut image config.chunkSize before (entry :: shakes) steps after)

section Phases

variable {config : FirmwareConfig} {before middle after : σ} {entry shake : Turn}
  {missed : List Turn}

/-- An update may stop at its first step. -/
private theorem ran_entry (entered : entry.request = .enterBootloader)
    (exchanged : Exchanged before [entry] after) : Ran image config before [] entry after where
  exchanged := exchanged
  phases := by
    refine ⟨entry, [], [], rfl, ?_, absurd rfl⟩
    exact {
      entered
      granted := fun some ↦ absurd rfl some
      shaken := List.forall_mem_nil _
      missed := List.forall_mem_nil _
      few := Nat.zero_le _
      shook := fun some ↦ absurd rfl some
      ordered := ⟨0, List.nil_prefix⟩
      stepped := List.forall_mem_nil _ }

section Shaken

variable (entered : entry.request = .enterBootloader) (granted : entry.Granted image)
  (early : Exchanged before [entry] middle) (all : ∀ turn ∈ missed, turn.Missed)
  (shaken : shake.request = .handshake)
  (few : missed.length < max config.handshakeAttempts 1)
include entered granted all shaken few

/-- After missed handshakes comes another one and, if that is granted, the steps after it. -/
private theorem phases_shaken {steps : List Turn} (shook : steps ≠ [] → shake.Granted image)
    (ordered : ∃ size, steps.map (·.request) <+: remaining image size)
    (stepped : ∀ turn ∈ steps.dropLast, turn.Granted image) :
    UpdatePhases image config.handshakeAttempts entry (missed ++ [shake]) steps where
  entered := entered
  granted := fun _ ↦ granted
  shaken := by
    intro turn member
    rcases List.mem_append.mp member with isMissed | last
    · obtain ⟨written, result, rfl, -⟩ := all turn isMissed
      rfl
    · rw [List.mem_singleton.mp last]
      exact shaken
  missed := by
    rw [List.dropLast_concat]
    exact all
  few := by
    rw [List.length_append]
    exact few
  shook := fun some ↦ ⟨missed, shake, rfl, shook some⟩
  ordered := ordered
  stepped := stepped

include early

/-- An update may stop at a handshake. -/
private theorem ran_shake (shook : Exchanged middle (missed ++ [shake]) after) :
    Ran image config before (entry :: missed) shake after where
  exchanged := early.append shook
  phases := by
    refine ⟨entry, missed ++ [shake], [], by simp, ?_, absurd rfl⟩
    exact phases_shaken entered granted all shaken few (fun some ↦ absurd rfl some)
      ⟨0, List.nil_prefix⟩ (List.forall_mem_nil _)

/-- An update may go on after a handshake that is granted. -/
private theorem ran_stepped {handshake : Handshake} {written : Bool} {front : List Turn}
    {last : Turn} {ready : σ} (isShake : shake = ⟨.handshake, written, .ok handshake⟩)
    (shook : Exchanged middle (missed ++ [shake]) ready) (ok : handshake.status = .ok)
    (fits : image.data.length ≤ handshake.maxImageSize.toNat)
    (stepped : Stepped image (remaining image
      (chunkSize config.chunkSize handshake.chunkSize.toNat (Transport.packetSize ready))) ready
      front last after) :
    Ran image config before (entry :: (missed ++ [shake]) ++ front) last after where
  exchanged := by
    rw [List.append_assoc]
    exact (early.append shook).append stepped.exchanged
  phases := by
    have isGranted : shake.Granted image := by
      rw [isShake]
      exact ⟨handshake, rfl, ok, fits⟩
    refine ⟨entry, missed ++ [shake], front ++ [last], by simp, ?_, fun _ ↦ ?_⟩
    · refine phases_shaken entered granted all shaken few (fun _ ↦ isGranted)
        ⟨_, stepped.ordered⟩ ?_
      rw [List.dropLast_concat]
      exact stepped.granted
    · refine ⟨entry :: missed, handshake, written, ready, ?_, ok, fits, early.append shook,
        stepped.exchanged, stepped.ordered⟩
      rw [isShake]
      rfl

end Shaken

end Phases

/-- A handshake that was missed was not granted. -/
private theorem not_granted_of_missed {turn : Turn} (isMissed : turn.Missed) :
    ¬turn.Granted image := by
  obtain ⟨written, result, rfl, turnedDown⟩ := isMissed
  rintro ⟨reply, answered, ok, -⟩
  have failed := turnedDown reply answered
  rw [ok] at failed
  nomatch failed

/-- A step after the handshakes is no handshake. -/
private theorem not_missed_of_stepped {size : Nat} {before after : σ} {front : List Turn}
    {last : Turn} (stepped : Stepped image (remaining image size) before front last after) :
    ¬last.Missed := by
  rintro ⟨written, result, rfl, -⟩
  have known := stepped.mem
  unfold remaining at known
  simp at known

/-- The steps of an update run as an update does, up to a reboot that is granted or to the first
exchange that is not. -/
theorem run_course (image : FirmwareImage) (updater : Updater σ) :
    (run image).Yields updater
      (fun _ next ↦ ∃ front last,
        Ran image updater.config updater.transport front last next.transport ∧
        last.request = .reboot ∧ last.Granted image)
      (fun _ next ↦ ∃ front last,
        Ran image updater.config updater.transport front last next.transport ∧
        ¬last.Granted image ∧ last.request.updateStage? = some next.stage ∧
        (last.Missed → front.length = max updater.config.handshakeAttempts 1)) := by
  unfold run
  rw [Action.yields_bind, enter, Action.yields_update]
  refine yields_step image .enterBootloader ?_ ?_ ?_
  · rintro status entry ready entered granted rfl early
    rw [Action.yields_bind, yields_accept]
    refine ⟨fun _ ↦ ?_, nofun⟩
    rw [Action.yields_bind, Action.yields_get, Action.yields_bind]
    refine (yields_awaitHandshake _ _ _).imp ?_ ?_
    · rintro handshake _ ⟨ok, missed, written, middle, rfl, few, all, shook⟩
      have shaken : (⟨.handshake, written, .ok handshake⟩ : Turn).request = .handshake := rfl
      rw [Action.yields_ite]
      constructor
      · intro large
        refine ⟨_, _, ran_shake entered granted early all shaken few shook, ?_, rfl, ?_⟩
        · rintro ⟨reply, same, -, fits⟩
          rw [← Except.ok.inj same] at fits
          exact Nat.not_lt.mpr fits large
        · rintro ⟨_, result, same, turnedDown⟩
          cases same
          have failed := turnedDown handshake rfl
          rw [ok] at failed
          nomatch failed
      · intro fits
        rw [Action.yields_bind, enter, Action.yields_update, Action.yields_bind]
        refine (yields_transfer image _ _).imp ?_ ?_
        · rintro _ next ⟨front, last, stepped, isReboot, rebooted⟩
          exact ⟨_, last, ran_stepped entered granted early all shaken few rfl shook ok
            (Nat.not_lt.mp fits) stepped, isReboot, rebooted⟩
        · rintro error next ⟨front, last, stepped, refused, stage⟩
          exact ⟨_, last, ran_stepped entered granted early all shaken few rfl shook ok
            (Nat.not_lt.mp fits) stepped, refused, stage,
            fun isMissed ↦ (not_missed_of_stepped stepped isMissed).elim⟩
    · rintro error _ ⟨missed, last, rfl, every, all, shook⟩
      rcases List.eq_nil_or_concat missed with rfl | ⟨before, shake, rfl⟩
      · have some := Nat.le_max_right updater.config.handshakeAttempts 1
        rw [← every] at some
        nomatch some
      · rw [List.concat_eq_append] at every all shook
        have isMissed := all shake (by simp)
        obtain ⟨written, result, isShake, -⟩ := isMissed
        have shaken : shake.request = .handshake := by rw [isShake]
        have count : before.length + 1 = max updater.config.handshakeAttempts 1 := by
          rw [← every, List.length_append, List.length_singleton]
        refine ⟨entry :: before, shake, ran_shake entered granted early ?_ shaken ?_ shook, ?_, ?_,
          fun _ ↦ count⟩
        · exact fun turn member ↦ all turn (List.mem_append_left _ member)
        · rw [← count]
          exact Nat.lt_succ_self _
        · exact not_granted_of_missed (all shake (by simp))
        · rw [shaken]
          rfl
  · intro status refused updater
    rw [Action.yields_bind, yields_accept]
    exact ⟨fun ok ↦ (refused ok).elim, fun _ ↦ rfl⟩
  · intro error entry last entered refused early
    refine ⟨[], entry, ran_entry entered early, refused, ?_, ?_⟩
    · rw [entered]
      rfl
    · rintro ⟨written, result, rfl, -⟩
      nomatch entered

end Updater

/-- What an update did to a recorded transport: its exchanges are those of an update, and the frames
that were written are all that was added to the frames of the record. -/
structure Updater.Went {σ : Type} [Transport σ] (image : FirmwareImage)
    (updater : Updater (Recorded σ)) (turns : List Turn) (next : Updater (Recorded σ)) : Prop where
  course : UpdateCourse image updater.config.handshakeAttempts turns
  exchanged : Exchanged updater.transport turns next.transport
  frames : next.transport.frames =
    updater.transport.frames ++ (turns.filter (·.written)).map (·.request.frame)

/-- What runs as an update went as one. -/
private theorem Updater.Ran.went {σ : Type} [Transport σ] {image : FirmwareImage}
    {updater next : Updater (Recorded σ)} {front : List Turn} {last : Turn}
    (ran : Ran image updater.config updater.transport front last next.transport) :
    updater.Went image (front ++ [last]) next := by
  refine ⟨?_, ran.exchanged, ran.exchanged.frames⟩
  obtain ⟨entry, shakes, steps, isAll, phases, -⟩ := ran.phases
  have written := ran.exchanged.written
  rw [isAll] at written ⊢
  exact phases.course written

/-- Whatever the transport does, an update goes its course. It succeeds, and is idle, if its last
exchange is a reboot that was granted. Otherwise it failed at its last exchange, which was not
granted, and reports the stage of that exchange; no reboot was granted then, and if it was a
handshake that was missed then no attempt was left. -/
theorem Updater.update_course {σ : Type} [Transport σ] (image : FirmwareImage)
    (updater : Updater (Recorded σ)) :
    (update image).Yields updater
      (fun _ next ↦ next.stage = .idle ∧ ∃ front last,
        updater.Went image (front ++ [last]) next ∧ last.request = .reboot ∧ last.Granted image)
      (fun error next ↦ next.stage = .failed ∧ ∃ front last,
        updater.Went image (front ++ [last]) next ∧ ¬last.Granted image ∧
        last.request.updateStage? = some error.stage ∧
        (∀ turn ∈ front ++ [last], turn.request = .reboot → ¬turn.Granted image) ∧
        (last.Missed → front.length = max updater.config.handshakeAttempts 1)) := by
  have ran := run_course image updater
  unfold Action.Yields at ran ⊢
  unfold update
  rw [Action.outcome_ofFun]
  rcases outcome : (run image).outcome updater with ⟨result, after⟩
  rw [outcome] at ran
  cases result with
  | ok value =>
    obtain ⟨front, last, ran, isReboot, rebooted⟩ := ran
    exact ⟨rfl, front, last, (Ran.went ran), isReboot, rebooted⟩
  | error cause =>
    obtain ⟨front, last, ran, refused, stage, exhausted⟩ := ran
    have went : updater.Went image (front ++ [last]) { after with stage := .failed } :=
      Ran.went ran
    refine ⟨rfl, front, last, went, refused, stage, ?_, exhausted⟩
    intro turn member isReboot granted
    rcases List.mem_append.mp member with early | isLast
    · have final := went.course.final
      rw [List.dropLast_concat] at final
      exact final turn early isReboot
    · rw [List.mem_singleton.mp isLast] at granted
      exact refused granted

end DebugProbe
