import DebugProbe.Firmware.Update
import DebugProbe.Proofs.Probe.Conversation
import Mathlib.Data.List.Chain

/-!
# The course of an update

An update exchanges its frames in a fixed order: the command that enters the bootloader, handshakes
until one is granted, the chunks of the image, the query for the checksum and the reboot. No step
follows one that was not granted, except a handshake that follows one that was missed. So a reboot
is sent only after everything before it was granted.
-/

namespace DebugProbe

/-- The requests of an update that goes all the way, with some handshakes and chunks of a size. -/
def FirmwareImage.requests (image : FirmwareImage) (tries size : Nat) : List Request :=
  .enterBootloader :: (List.replicate tries .handshake ++ ((image.chunks size).map .writeChunk ++
    [.checksum (UInt32.ofNat image.data.length), .reboot]))

/-- The stage of an update in which a request is sent. -/
def Request.updateStage? : Request → Option UpdateStage
  | enterBootloader | handshake => some .handshake
  | writeChunk _ => some .transferring
  | checksum _ | reboot => some .verifying
  | _ => none

/-- The reply lets the update with an image go on. -/
def Request.Grants (image : FirmwareImage) : (request : Request) → request.Response → Prop
  | enterBootloader, status | reboot, status => status = .ok
  | handshake, reply => reply.status = .ok ∧ image.data.length ≤ reply.maxImageSize.toNat
  | writeChunk chunk, reply => reply = ⟨.ok, chunk.offset⟩
  | checksum _, reply => reply = ⟨.ok, image.checksum⟩
  | _, _ => False

namespace Turn

/-- The exchange was answered, and the answer lets the update go on. -/
def Granted (image : FirmwareImage) (turn : Turn) : Prop :=
  ∃ reply, turn.result = .ok reply ∧ turn.request.Grants image reply

/-- A handshake that got no answer or was turned down. -/
def Missed (turn : Turn) : Prop :=
  ∃ written result, turn = ⟨.handshake, written, result⟩ ∧
    ∀ reply, result = .ok reply → reply.status = .error

/-- The codes of the frames that were written. -/
def codes (turns : List Turn) : List UInt8 :=
  (turns.filter (·.written)).map (·.request.command.code)

end Turn

/-- Exchanges of an update, one after the other. -/
structure UpdateCourse (image : FirmwareImage) (attempts : Nat) (turns : List Turn) : Prop where
  /-- The requests come in order; there is at least one handshake and at most one per attempt. -/
  ordered : ∃ tries size, 1 ≤ tries ∧ tries ≤ max attempts 1 ∧
    turns.map (·.request) <+: image.requests tries size
  /-- Nothing follows a step that was not granted, except a handshake another handshake. -/
  cutOff : turns.IsChain fun turn next ↦
    if turn.request = .handshake ∧ next.request = .handshake then turn.Missed
    else turn.Granted image
  /-- The codes of the frames come in order. -/
  codes : ∃ tries size, 1 ≤ tries ∧ tries ≤ max attempts 1 ∧
    Turn.codes turns <+: 0x80 :: (List.replicate tries 0x81 ++
      (List.replicate (image.chunks size).length 0x82 ++ [0x83, 0x84]))
  /-- Nothing follows the reboot. -/
  final : ∀ turn ∈ turns.dropLast, turn.request ≠ .reboot
  /-- A reboot is sent only if a handshake for an image of this size, every chunk of the image and
  the checksum were granted. -/
  justified : (∃ turn ∈ turns, turn.request = .reboot) →
    (∃ turn ∈ turns, turn.request = .handshake ∧ turn.Granted image) ∧
    (∃ size, (image.chunks size).flatMap (·.data) = image.data ∧
      ∀ chunk ∈ image.chunks size, ∃ turn ∈ turns, turn.request = .writeChunk chunk ∧
        turn.Granted image) ∧
    ∃ turn ∈ turns, turn.request = .checksum (UInt32.ofNat image.data.length) ∧
      turn.Granted image

/-- The chunks of an image add up to it. -/
theorem FirmwareImage.data_chunks (image : FirmwareImage) (size : Nat) :
    (image.chunks size).flatMap (·.data) = image.data := by
  have cut (offset : Nat) (data : Bytes) :
      (chunksFrom size offset data).flatMap (·.data) = data := by
    induction offset, data using chunksFrom.induct size with
    | case1 offset =>
      rw [chunksFrom]
      rfl
    | case2 offset byte rest length ih =>
      have some : length = length - 1 + 1 := (Nat.sub_add_cancel (Nat.le_max_right size 1)).symm
      have after : rest.drop (length - 1) = (byte :: rest).drop length := by
        rw [some, List.drop_succ_cons]
        rfl
      rw [chunksFrom, List.flatMap_cons, ih, after]
      exact List.take_append_drop length (byte :: rest)
  exact cut 0 image.data

/-- The exchanges of an update by phase: the entry, the handshakes and the steps after them. -/
structure UpdatePhases (image : FirmwareImage) (attempts : Nat) (entry : Turn)
    (shakes steps : List Turn) : Prop where
  entered : entry.request = .enterBootloader
  granted : shakes ++ steps ≠ [] → entry.Granted image
  shaken : ∀ turn ∈ shakes, turn.request = .handshake
  missed : ∀ turn ∈ shakes.dropLast, turn.Missed
  few : shakes.length ≤ max attempts 1
  shook : steps ≠ [] → ∃ before last, shakes = before ++ [last] ∧ last.Granted image
  ordered : ∃ size, steps.map (·.request) <+: (image.chunks size).map .writeChunk ++
    [.checksum (UInt32.ofNat image.data.length), .reboot]
  stepped : ∀ turn ∈ steps.dropLast, turn.Granted image

/-- Neighbours are related if every element but the last one is related to all of them. -/
private theorem isChain_of_dropLast {related : Turn → Turn → Prop} {turns : List Turn}
    (relates : ∀ turn ∈ turns.dropLast, ∀ next ∈ turns, related turn next) :
    turns.IsChain related := by
  induction turns with
  | nil => exact .nil
  | cons turn rest ih =>
    cases rest with
    | nil => exact .singleton turn
    | cons next rest =>
      rw [List.isChain_cons_cons]
      refine ⟨relates turn List.mem_cons_self next (List.mem_cons_of_mem _ List.mem_cons_self),
        ih fun before early after late ↦ ?_⟩
      exact relates before (List.mem_cons_of_mem _ early) after (List.mem_cons_of_mem _ late)

namespace Turn

theorem codes_append (turns later : List Turn) :
    codes (turns ++ later) = codes turns ++ codes later := by
  unfold codes
  rw [List.filter_append, List.map_append]

/-- Frames that were all written show the codes of all requests. -/
theorem codes_of_written {turns : List Turn} (written : ∀ turn ∈ turns, turn.written = true) :
    codes turns = turns.map (·.request.command.code) := by
  unfold codes
  rw [List.filter_eq_self.mpr written]

/-- If all frames but the last one were written, the codes are a beginning of those of all
requests. -/
theorem codes_prefix {turns : List Turn} (written : ∀ turn ∈ turns.dropLast, turn.written = true) :
    codes turns <+: turns.map (·.request.command.code) := by
  rcases List.eq_nil_or_concat turns with rfl | ⟨before, last, rfl⟩
  · exact List.prefix_rfl
  · rw [List.concat_eq_append] at written ⊢
    rw [List.dropLast_concat] at written
    rw [codes_append, List.map_append, codes_of_written written]
    apply (List.prefix_append_right_inj _).mpr
    cases wrote : last.written with
    | true =>
      have all : codes [last] = [last].map (·.request.command.code) := by simp [codes, wrote]
      exact ⟨[], by rw [List.append_nil, all]⟩
    | false =>
      have none : codes [last] = [] := by simp [codes, wrote]
      rw [none]
      exact List.nil_prefix

end Turn

namespace UpdatePhases

variable {image : FirmwareImage} {attempts : Nat} {entry : Turn} {shakes steps : List Turn}

/-- The requests after the handshakes, the reboot apart. -/
private def middle (image : FirmwareImage) (size : Nat) : List Request :=
  (image.chunks size).map .writeChunk ++ [.checksum (UInt32.ofNat image.data.length)]

private theorem not_mem_middle {size : Nat} {request : Request}
    (member : request ∈ middle image size) : request ≠ .handshake ∧ request ≠ .reboot := by
  rcases List.mem_append.mp member with isChunk | isSum
  · obtain ⟨chunk, -, rfl⟩ := List.mem_map.mp isChunk
    exact ⟨nofun, nofun⟩
  · rw [List.mem_singleton.mp isSum]
    exact ⟨nofun, nofun⟩

section

variable (phases : UpdatePhases image attempts entry shakes steps)
include phases

/-- The steps either are all of them, the reboot being the last one, or stop before the reboot. -/
private theorem steps_cases :
    ∃ size, steps.map (·.request) = middle image size ++ [.reboot] ∨
      steps.map (·.request) <+: middle image size := by
  obtain ⟨size, order⟩ := phases.ordered
  refine ⟨size, List.prefix_concat_iff.mp ?_⟩
  unfold middle
  rw [List.append_assoc]
  exact order

private theorem not_handshake {turn : Turn} (member : turn ∈ steps) :
    turn.request ≠ .handshake := by
  have known := List.mem_map_of_mem (f := Turn.request) member
  obtain ⟨size, whole | part⟩ := phases.steps_cases
  · rw [whole] at known
    rcases List.mem_append.mp known with early | last
    · exact (not_mem_middle early).1
    · rw [List.mem_singleton.mp last]
      nofun
  · exact (not_mem_middle (part.subset known)).1

/-- Steps come after a handshake. -/
private theorem steps_eq_nil (none : shakes = []) : steps = [] := by
  by_contra some
  obtain ⟨before, last, ends, -⟩ := phases.shook some
  rw [none] at ends
  simp at ends

private theorem ordered_turns :
    ∃ tries size, 1 ≤ tries ∧ tries ≤ max attempts 1 ∧
      (entry :: (shakes ++ steps)).map (·.request) <+: image.requests tries size := by
  obtain ⟨size, order⟩ := phases.ordered
  have shaken : shakes.map (·.request) = List.replicate shakes.length .handshake := by
    rw [List.eq_replicate_iff]
    refine ⟨List.length_map _, fun request known ↦ ?_⟩
    obtain ⟨turn, member, rfl⟩ := List.mem_map.mp known
    exact phases.shaken turn member
  unfold FirmwareImage.requests
  rw [List.map_cons, phases.entered, List.map_append, shaken]
  by_cases none : shakes = []
  · refine ⟨1, size, Nat.le_refl 1, Nat.le_max_right _ _, ?_⟩
    rw [phases.steps_eq_nil none, none]
    exact List.cons_prefix_cons.mpr ⟨rfl, List.nil_prefix⟩
  · refine ⟨shakes.length, size, List.length_pos_iff.mpr none, phases.few, ?_⟩
    exact List.cons_prefix_cons.mpr ⟨rfl, (List.prefix_append_right_inj _).mpr order⟩

private theorem cutOff_turns :
    (entry :: (shakes ++ steps)).IsChain fun turn next ↦
      if turn.request = .handshake ∧ next.request = .handshake then turn.Missed
      else turn.Granted image := by
  rw [List.isChain_cons, List.isChain_append]
  refine ⟨?_, ?_, ?_, ?_⟩
  · intro next first
    rw [phases.entered, if_neg (by simp)]
    apply phases.granted
    intro none
    rw [none] at first
    nomatch first
  · refine isChain_of_dropLast fun turn early next late ↦ ?_
    rw [if_pos ⟨phases.shaken turn (List.dropLast_subset _ early), phases.shaken next late⟩]
    exact phases.missed turn early
  · refine isChain_of_dropLast fun turn early next late ↦ ?_
    rw [if_neg fun both ↦ phases.not_handshake late both.2]
    exact phases.stepped turn early
  · intro turn last next first
    have member : next ∈ steps := List.mem_of_mem_head? first
    rw [if_neg fun both ↦ phases.not_handshake member both.2]
    obtain ⟨before, shake, ends, isGranted⟩ := phases.shook (List.ne_nil_of_mem member)
    rw [ends, List.getLast?_concat] at last
    rw [← Option.some.inj last]
    exact isGranted

/-- Either the steps end with the reboot, after all the others, or there is no reboot. -/
private theorem reboot_cases :
    (∃ size before last, steps = before ++ [last] ∧ before.map (·.request) = middle image size ∧
        last.request = .reboot) ∨
      ∀ turn ∈ entry :: (shakes ++ steps), turn.request ≠ .reboot := by
  obtain ⟨size, whole | part⟩ := phases.steps_cases
  · obtain ⟨before, after, rfl, early, late⟩ := List.map_eq_append_iff.mp whole
    obtain ⟨last, none, rfl, isReboot, nil⟩ := List.map_eq_cons_iff.mp late
    rw [List.map_eq_nil_iff.mp nil]
    exact .inl ⟨size, before, last, rfl, early, isReboot⟩
  · right
    intro turn member
    rcases List.mem_cons.mp member with rfl | later
    · rw [phases.entered]
      nofun
    · rcases List.mem_append.mp later with shake | step
      · rw [phases.shaken turn shake]
        nofun
      · exact (not_mem_middle (part.subset (List.mem_map_of_mem step))).2

private theorem final_turns :
    ∀ turn ∈ (entry :: (shakes ++ steps)).dropLast, turn.request ≠ .reboot := by
  intro turn member
  rcases phases.reboot_cases with ⟨size, before, last, rfl, early, -⟩ | never
  · rw [← List.append_assoc, ← List.cons_append, List.dropLast_concat] at member
    rcases List.mem_cons.mp member with rfl | later
    · rw [phases.entered]
      nofun
    · rcases List.mem_append.mp later with shake | step
      · rw [phases.shaken turn shake]
        nofun
      · have known := List.mem_map_of_mem (f := Turn.request) step
        rw [early] at known
        exact (not_mem_middle known).2
  · exact never turn (List.dropLast_subset _ member)

private theorem justified_turns
    (reboots : ∃ turn ∈ entry :: (shakes ++ steps), turn.request = .reboot) :
    (∃ turn ∈ entry :: (shakes ++ steps), turn.request = .handshake ∧ turn.Granted image) ∧
    (∃ size, (image.chunks size).flatMap (·.data) = image.data ∧
      ∀ chunk ∈ image.chunks size, ∃ turn ∈ entry :: (shakes ++ steps),
        turn.request = .writeChunk chunk ∧ turn.Granted image) ∧
    ∃ turn ∈ entry :: (shakes ++ steps),
      turn.request = .checksum (UInt32.ofNat image.data.length) ∧ turn.Granted image := by
  rcases phases.reboot_cases with ⟨size, before, last, rfl, early, -⟩ | never
  · have granted {request : Request} (known : request ∈ middle image size) :
        ∃ turn ∈ entry :: (shakes ++ (before ++ [last])),
          turn.request = request ∧ turn.Granted image := by
      rw [← early] at known
      obtain ⟨turn, member, rfl⟩ := List.mem_map.mp known
      refine ⟨turn, by simp [member], rfl, phases.stepped turn ?_⟩
      rw [List.dropLast_concat]
      exact member
    refine ⟨?_, ⟨size, image.data_chunks size, fun chunk member ↦ granted ?_⟩, granted ?_⟩
    · obtain ⟨missed, shake, rfl, isGranted⟩ := phases.shook (by simp)
      exact ⟨shake, by simp, phases.shaken shake (by simp), isGranted⟩
    · exact List.mem_append_left _ (List.mem_map_of_mem member)
    · exact List.mem_append_right _ List.mem_cons_self
  · obtain ⟨turn, member, isReboot⟩ := reboots
    exact absurd isReboot (never turn member)

/-- The frames of the handshakes all have one code. -/
private theorem codes_shakes :
    ∃ sent ≤ shakes.length, Turn.codes shakes = List.replicate sent 0x81 := by
  refine ⟨(Turn.codes shakes).length, ?_, List.eq_replicate_iff.mpr ⟨rfl, fun code member ↦ ?_⟩⟩
  · unfold Turn.codes
    rw [List.length_map]
    exact List.length_filter_le _ _
  · obtain ⟨turn, wrote, rfl⟩ := List.mem_map.mp member
    rw [phases.shaken turn (List.mem_filter.mp wrote).1]
    rfl

/-- The frames of the steps begin as those of an update that goes all the way. -/
private theorem codes_steps (written : ∀ turn ∈ steps.dropLast, turn.written = true) :
    ∃ size, Turn.codes steps <+:
      List.replicate (image.chunks size).length 0x82 ++ [0x83, 0x84] := by
  obtain ⟨size, order⟩ := phases.ordered
  refine ⟨size, (Turn.codes_prefix written).trans ?_⟩
  have codes := order.map (·.command.code)
  rw [List.map_map, List.map_append, List.map_map] at codes
  have chunks : (image.chunks size).map ((·.command.code) ∘ Request.writeChunk) =
      List.replicate (image.chunks size).length 0x82 := List.map_const
  rw [chunks] at codes
  exact codes

private theorem codes_turns
    (written : ∀ turn ∈ entry :: (shakes ++ steps), turn.result.isOk = true → turn.written = true) :
    ∃ tries size, 1 ≤ tries ∧ tries ≤ max attempts 1 ∧
      Turn.codes (entry :: (shakes ++ steps)) <+: 0x80 :: (List.replicate tries 0x81 ++
        (List.replicate (image.chunks size).length 0x82 ++ [0x83, 0x84])) := by
  have wrote {turn : Turn} (member : turn ∈ entry :: (shakes ++ steps))
      (granted : turn.Granted image) : turn.written = true := by
    obtain ⟨reply, answered, -⟩ := granted
    apply written turn member
    rw [answered]
    rfl
  have apart : Turn.codes (entry :: (shakes ++ steps)) =
      Turn.codes [entry] ++ (Turn.codes shakes ++ Turn.codes steps) := by
    rw [← Turn.codes_append, ← Turn.codes_append]
    rfl
  rw [apart]
  -- Only a missed handshake and the last exchange may be without a frame.
  by_cases later : shakes ++ steps = []
  · obtain ⟨none, stopped⟩ := List.append_eq_nil_iff.mp later
    subst none stopped
    refine ⟨1, 0, Nat.le_refl 1, Nat.le_max_right _ _, ?_⟩
    have begins : Turn.codes [entry] <+: [0x80] := by
      have begins : Turn.codes [entry] <+: [entry].map (·.request.command.code) :=
        Turn.codes_prefix (List.forall_mem_nil _)
      rw [List.map_singleton, phases.entered] at begins
      exact begins
    show Turn.codes [entry] ++ [] <+: _
    rw [List.append_nil]
    exact begins.trans (List.cons_prefix_cons.mpr ⟨rfl, List.nil_prefix⟩)
  · have entered : Turn.codes [entry] = [0x80] := by
      have wrote : entry.written = true := wrote List.mem_cons_self (phases.granted later)
      simp only [Turn.codes, List.filter_cons, wrote, if_true, List.filter_nil, List.map_cons,
        List.map_nil, phases.entered]
      rfl
    obtain ⟨sent, le, shook⟩ := phases.codes_shakes
    rw [entered, shook]
    by_cases none : steps = []
    · subst none
      refine ⟨max sent 1, 0, Nat.le_max_right _ _, ?_, ?_⟩
      · exact Nat.max_le.mpr ⟨Nat.le_trans le phases.few, Nat.le_max_right _ _⟩
      · have split : max sent 1 = sent + (max sent 1 - sent) := by omega
        show 0x80 :: (List.replicate sent 0x81 ++ []) <+: _
        rw [split, List.replicate_add, List.append_nil, List.append_assoc]
        exact List.cons_prefix_cons.mpr ⟨rfl, List.prefix_append _ _⟩
    · obtain ⟨size, begins⟩ := phases.codes_steps fun turn member ↦
        wrote (by simp [List.dropLast_subset _ member]) (phases.stepped turn member)
      refine ⟨sent, size, ?_, Nat.le_trans le phases.few, ?_⟩
      · obtain ⟨missed, shake, rfl, isGranted⟩ := phases.shook none
        have answered : shake.written = true := wrote (by simp) isGranted
        have shows : shake.request.command.code ∈ Turn.codes (missed ++ [shake]) :=
          List.mem_map_of_mem (List.mem_filter.mpr ⟨by simp, answered⟩)
        have some := List.length_pos_of_mem shows
        rw [shook, List.length_replicate] at some
        exact some
      · exact List.cons_prefix_cons.mpr
          ⟨rfl, (List.prefix_append_right_inj (List.replicate sent _)).mpr begins⟩

/-- Exchanges that come in these phases are those of an update. -/
theorem course
    (written : ∀ turn ∈ entry :: (shakes ++ steps), turn.result.isOk = true → turn.written = true) :
    UpdateCourse image attempts (entry :: (shakes ++ steps)) :=
  ⟨phases.ordered_turns, phases.cutOff_turns, phases.codes_turns written, phases.final_turns,
    phases.justified_turns⟩

end

end UpdatePhases

end DebugProbe
