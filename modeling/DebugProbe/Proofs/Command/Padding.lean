import DebugProbe.Proofs.Probe.Frames

/-!
# Padded and truncated answers

A probe may pad its answer to a full report, and an answer may arrive cut off. Every reader of
answers asks for the bytes that it reads before it reads them, so its verdict on a payload stands
whatever follows, with one exception: a complaint about missing bytes stands until as many bytes
are there as it asks for.
-/

namespace DebugProbe

namespace Bytes

variable {bytes : Bytes} {position count : Nat}

theorem byteAt_append (rest : Bytes) (inside : position < bytes.length) :
    (bytes ++ rest).byteAt position = bytes.byteAt position := by
  rw [byteAt, byteAt, List.getD_eq_getElem?_getD, List.getD_eq_getElem?_getD,
    List.getElem?_append_left inside]

/-- What is read from inside does not depend on what follows. -/
theorem window_append (rest : Bytes) (inside : position + count ≤ bytes.length) :
    ((bytes ++ rest).drop position).take count = (bytes.drop position).take count := by
  have room : count ≤ (bytes.drop position).length := by rw [List.length_drop]; omega
  rw [List.drop_append_of_le_length (by omega), List.take_append_of_le_length room]

theorem uint16At_append (rest : Bytes) (inside : position + 2 ≤ bytes.length) :
    (bytes ++ rest).uint16At position = bytes.uint16At position := by
  rw [uint16At, uint16At, window_append rest inside]

theorem uint32At_append (rest : Bytes) (inside : position + 4 ≤ bytes.length) :
    (bytes ++ rest).uint32At position = bytes.uint32At position := by
  rw [uint32At, uint32At, window_append rest inside]

theorem words_append (rest : Bytes) (inside : 4 * count ≤ bytes.length) :
    words count (bytes ++ rest) = words count bytes := by
  induction count generalizing bytes with
  | zero => rfl
  | succ count ih =>
    have left : 4 * count ≤ (bytes.drop 4).length := by rw [List.length_drop]; omega
    rw [words, words, uint32At_append rest (by omega),
      List.drop_append_of_le_length (by omega), ih left]

end Bytes

/-- How the verdict on a payload and the verdict on a longer one go together: they are the same, or
bytes are missing from the payload, and then from every longer one that has not got them either. -/
inductive Settles {α : Type} (payload longer : Bytes) :
    (verdict later : Except FramingError α) → Prop where
  | same {verdict : Except FramingError α}
      (complete : ∀ expected actual, verdict ≠ .error (.tooShort expected actual)) :
      Settles payload longer verdict verdict
  | missing {expected : Nat} {later : Except FramingError α}
      (short : payload.length + 1 < expected)
      (stands : longer.length + 1 < expected →
        later = .error (.tooShort expected (longer.length + 1))) :
      Settles payload longer (.error (.tooShort expected (payload.length + 1))) later

namespace Settles

variable {α β : Type} {payload longer rest : Bytes}

theorem ok (value : α) : Settles payload longer (.ok value) (.ok value) := same nofun

/-- A reader goes on with what it read first. -/
theorem bind {verdict later : Except FramingError α} {next after : α → Except FramingError β}
    (first : Settles payload longer verdict later)
    (second : ∀ value, verdict = .ok value → Settles payload longer (next value) (after value)) :
    Settles payload longer (verdict >>= next) (later >>= after) := by
  cases first with
  | same complete =>
    cases verdict with
    | ok value => exact second value rfl
    | error error =>
      refine same fun expected actual failed ↦ complete expected actual ?_
      rw [Except.error.inj failed]
  | missing short stands =>
    refine missing short fun absent ↦ ?_
    rw [stands absent]
    rfl

theorem map {verdict later : Except FramingError α} (rename : α → β)
    (first : Settles payload longer verdict later) :
    Settles payload longer (verdict.map rename) (later.map rename) := by
  have asBind (result : Except FramingError α) :
      result.map rename = result >>= fun value ↦ .ok (rename value) := by cases result <;> rfl
  rw [asBind, asBind]
  exact first.bind fun value _ ↦ ok (rename value)

/-- A check of the length either passes on both payloads or complains about the shorter one. -/
theorem lengthCheck (payload rest : Bytes) (needed : Nat) :
    Settles payload (payload ++ rest) (requireLength payload needed)
      (requireLength (payload ++ rest) needed) := by
  by_cases short : payload.length < needed
  · rw [requireLength, if_pos short]
    apply missing
    · omega
    · intro absent
      rw [requireLength, if_pos (by omega)]
  · have longer : ¬(payload ++ rest).length < needed := by rw [List.length_append]; omega
    rw [requireLength, requireLength, if_neg short, if_neg longer]
    exact ok ()

/-- What a check of the length asked for is there afterwards. -/
theorem afterLength {needed : Nat} {next after : Unit → Except FramingError α}
    (second : needed ≤ payload.length → Settles payload (payload ++ rest) (next ()) (after ())) :
    Settles payload (payload ++ rest) (requireLength payload needed >>= next)
      (requireLength (payload ++ rest) needed >>= after) :=
  (lengthCheck payload rest needed).bind fun _ enough ↦
    second (requireLength_eq_ok_iff.mp enough)

theorem of_ok {verdict later : Except FramingError α} {value : α}
    (settled : Settles payload longer verdict later) (read : verdict = .ok value) :
    later = .ok value := by
  cases settled with
  | same => exact read
  | missing => nomatch read

theorem of_error {verdict later : Except FramingError α} {error : FramingError}
    (settled : Settles payload longer verdict later) (refused : verdict = .error error)
    (complete : ∀ expected actual, error ≠ .tooShort expected actual) : later = .error error := by
  cases settled with
  | same => exact refused
  | missing => exact absurd (Except.error.inj refused).symm (complete _ _)

/-- A complaint about missing bytes gives the length that is there, and no payload that is shorter
than what it asks for is read. -/
theorem of_tooShort {verdict later : Except FramingError α} {expected actual : Nat}
    (settled : Settles payload longer verdict later)
    (refused : verdict = .error (.tooShort expected actual)) :
    actual = payload.length + 1 ∧ payload.length + 1 < expected ∧
      (longer.length + 1 < expected → ∀ value, later ≠ .ok value) := by
  cases settled with
  | same complete => exact absurd refused (complete expected actual)
  | missing short stands =>
    cases refused
    refine ⟨rfl, short, fun absent value read ↦ ?_⟩
    rw [stands absent] at read
    nomatch read

theorem status (byte : UInt8) :
    Settles payload longer (Status.ofByte byte) (Status.ofByte byte) := by
  apply same
  unfold Status.ofByte
  split
  · nofun
  · split <;> nofun

end Settles

/-! ## The readers -/

section Readers

variable {payload : Bytes}

theorem Info.text_settles (held : 0 < payload.length) (rest : Bytes) :
    Settles payload (payload ++ rest) (text payload) (text (payload ++ rest)) := by
  simp only [text, Bytes.byteAt_append rest held]
  split
  · exact .ok none
  · refine .afterLength fun enough ↦ ?_
    rw [Bytes.window_append rest enough]
    split
    · exact .ok _
    · exact .same nofun

theorem Info.number_settles (held : 0 < payload.length) (size : Nat) (rest : Bytes) :
    Settles payload (payload ++ rest) (number size payload) (number size (payload ++ rest)) := by
  simp only [number, Bytes.byteAt_append rest held]
  split
  · exact .same nofun
  · refine .afterLength fun enough ↦ ?_
    rw [Bytes.window_append rest enough]
    exact .ok _

theorem Info.capabilities_settles (held : 0 < payload.length) (rest : Bytes) :
    Settles payload (payload ++ rest) (capabilities payload) (capabilities (payload ++ rest)) := by
  simp only [capabilities, Bytes.byteAt_append rest held]
  split
  · exact .same nofun
  · refine .afterLength fun enough ↦ ?_
    rw [Bytes.window_append rest (by omega)]
    exact .ok _

/-- The words of completed reads, from any position on. -/
theorem TransferRequest.readData_settles (transfers : List Transfer) (position : Nat)
    (rest : Bytes) :
    Settles payload (payload ++ rest) (readData payload transfers position)
      (readData (payload ++ rest) transfers position) := by
  induction transfers generalizing position with
  | nil => exact .ok []
  | cons transfer transfers ih =>
    unfold readData
    split
    · refine .afterLength fun enough ↦ ?_
      rw [Bytes.uint32At_append rest enough]
      exact (ih (position + 4)).bind fun data _ ↦ .ok _
    · exact (ih position).bind fun data _ ↦ .ok _

theorem TransferRequest.parse_settles (request : TransferRequest) (held : 2 ≤ payload.length)
    (rest : Bytes) :
    Settles payload (payload ++ rest) (request.parse payload)
      (request.parse (payload ++ rest)) := by
  have first : 0 < payload.length := by omega
  have second : 1 < payload.length := by omega
  simp only [parse, Bytes.byteAt_append rest first, Bytes.byteAt_append rest second]
  split
  · exact .same nofun
  · exact (readData_settles _ 2 rest).bind fun data _ ↦ .ok _

theorem BlockRequest.parse_settles (request : BlockRequest) (held : 3 ≤ payload.length)
    (rest : Bytes) :
    Settles payload (payload ++ rest) (request.parse payload)
      (request.parse (payload ++ rest)) := by
  have count : 0 + 2 ≤ payload.length := by omega
  have status : 2 < payload.length := by omega
  simp only [parse, Bytes.uint16At_append rest count, Bytes.byteAt_append rest status]
  split
  · exact .same nofun
  · split
    · refine .afterLength fun enough ↦ ?_
      have words : 4 * (payload.uint16At 0).toNat ≤ (payload.drop 3).length := by
        rw [List.length_drop]; omega
      rw [List.drop_append_of_le_length held, Bytes.words_append rest words]
      exact .ok _
    · exact .ok _

theorem Handshake.parse_settles (held : 0 < payload.length) (rest : Bytes) :
    Settles payload (payload ++ rest) (parse payload) (parse (payload ++ rest)) := by
  simp only [parse, Bytes.byteAt_append rest held]
  refine (Settles.status _).bind fun status _ ↦ ?_
  cases status with
  | error => exact .ok _
  | ok =>
    refine .afterLength fun enough ↦ ?_
    rw [Bytes.byteAt_append rest (by omega), Bytes.uint16At_append rest (by omega),
      Bytes.uint32At_append rest (by omega)]
    exact .ok _

/-- A status with a word behind it, which is there even if the status is an error. -/
theorem Settles.statusWord {α : Type} (build : Status → UInt32 → α) (held : 0 < payload.length)
    (rest : Bytes) :
    Settles payload (payload ++ rest)
      (do
        let status ← Status.ofByte (payload.byteAt 0)
        requireLength payload 5
        return build status (payload.uint32At 1))
      (do
        let status ← Status.ofByte ((payload ++ rest).byteAt 0)
        requireLength (payload ++ rest) 5
        return build status ((payload ++ rest).uint32At 1)) := by
  rw [Bytes.byteAt_append rest held]
  refine (Settles.status _).bind fun status _ ↦ .afterLength fun enough ↦ ?_
  rw [Bytes.uint32At_append rest enough]
  exact .ok _

end Readers

namespace Request

/-- A payload with the bytes that every answer has is settled by the reader of its request. -/
theorem parse_settles (request : Request) {payload : Bytes}
    (held : request.minReplyLength ≤ payload.length) (rest : Bytes) :
    Settles payload (payload ++ rest) (request.parse payload)
      (request.parse (payload ++ rest)) := by
  have status (first : 1 ≤ payload.length) :
      Settles payload (payload ++ rest) (Status.ofByte (payload.byteAt 0))
        (Status.ofByte ((payload ++ rest).byteAt 0)) := by
    rw [Bytes.byteAt_append rest first]
    exact .status _
  cases request with
  | infoText item => exact Info.text_settles held rest
  | infoCapabilities => exact Info.capabilities_settles held rest
  | infoTraceBufferSize => exact (Info.number_settles held 4 rest).map UInt32.ofNat
  | infoPacketCount => exact (Info.number_settles held 1 rest).map UInt8.ofNat
  | infoPacketSize => exact (Info.number_settles held 2 rest).map UInt16.ofNat
  | hostStatus light on => exact .ok ()
  | connect mode =>
    simp only [parse, Bytes.byteAt_append rest held]
    split
    · exact .ok _
    · split
      · exact .ok _
      · split
        · exact .ok _
        · exact .same nofun
  | resetTarget =>
    have first : 0 < payload.length := Nat.lt_of_succ_lt held
    simp only [parse, Bytes.byteAt_append rest first, Bytes.byteAt_append rest held]
    refine (Settles.status _).bind fun status _ ↦ ?_
    split
    · exact .ok _
    · split
      · exact .ok _
      · exact .same nofun
  | pins request =>
    simp only [parse, Bytes.byteAt_append rest held]
    exact .ok _
  | jtagScan scan =>
    refine (status held).bind fun answer _ ↦ ?_
    cases answer with
    | error => exact .ok _
    | ok =>
      refine .afterLength fun enough ↦ ?_
      rw [Bytes.window_append rest enough]
      exact .ok _
  | transfer request => exact request.parse_settles held rest
  | transferBlock request => exact request.parse_settles held rest
  | transferAbort => exact .ok ()
  | handshake => exact Handshake.parse_settles held rest
  | writeChunk chunk => exact .statusWord ChunkReply.mk held rest
  | checksum length => exact .statusWord ChecksumReply.mk held rest
  | disconnect | writeAbort _ _ | clock _ | lineSequence _ | swdConfigure _ | jtagConfigure _
  | transferConfigure _ | enterBootloader | reboot => exact status held

/-- A frame that begins with the code of the request is settled as its payload is. -/
theorem decode_settles (request : Request) (payload rest : Bytes) :
    Settles payload (payload ++ rest) (request.decode (request.command.code :: payload))
      (request.decode (request.command.code :: payload ++ rest)) := by
  have answered (payload : Bytes) : request.decode (request.command.code :: payload) =
      requireLength payload request.minReplyLength >>= fun _ ↦ request.parse payload :=
    if_neg (not_not_intro rfl)
  rw [List.cons_append, answered, answered]
  exact .afterLength fun enough ↦ request.parse_settles enough rest

/-- Decoding ignores padding and never guesses from a truncated frame. What was read from a frame is
read from the frame with any bytes after it; a frame that is wrong stays wrong in the same way; and
a frame that is too short is complained about with its own length and with a length below which no
frame that begins with it can be read. -/
theorem decode_append (request : Request) (frame rest : Bytes) :
    (∀ reply, request.decode frame = .ok reply →
      frame.head? = some request.command.code ∧ request.decode (frame ++ rest) = .ok reply) ∧
    (∀ error, request.decode frame = .error error → frame ≠ [] →
      (∀ expected actual, error ≠ .tooShort expected actual) →
      request.decode (frame ++ rest) = .error error) ∧
    (∀ expected actual, request.decode frame = .error (.tooShort expected actual) →
      actual = frame.length ∧ frame.length < expected ∧
      ((frame ++ rest).length < expected →
        ∀ reply, request.decode (frame ++ rest) ≠ .ok reply)) := by
  match frame with
  | [] =>
    refine ⟨nofun, fun _ _ empty ↦ absurd rfl empty, ?_⟩
    rintro expected actual ⟨⟩
    refine ⟨rfl, Nat.succ_pos _, fun short reply decoded ↦ ?_⟩
    obtain ⟨code, payload, frame, long, -⟩ := parse_of_decode decoded
    rw [frame, List.length_cons] at short
    omega
  | code :: payload =>
    by_cases answers : code = request.command.code
    · subst answers
      have settled := request.decode_settles payload rest
      refine ⟨fun reply decoded ↦ ⟨rfl, settled.of_ok decoded⟩,
        fun error refused _ complete ↦ settled.of_error refused complete,
        fun expected actual refused ↦ ?_⟩
      exact settled.of_tooShort refused
    · have refused (payload : Bytes) : request.decode (code :: payload) =
          .error (.commandMismatch request.command.code code) := if_pos answers
      rw [List.cons_append, refused, refused]
      refine ⟨nofun, fun error same _ _ ↦ same, nofun⟩

end Request

end DebugProbe
