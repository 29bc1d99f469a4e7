import DebugProbe.Proofs.Session.Invariant

/-!
# A connect never skips a step

A connect of a session that is not connected takes one of its courses, so each of its frames goes
out only after those before it were accepted. It succeeds exactly if the probe was told in the end,
and it is refused only because of what the probe can do, before the port is asked for.
-/

namespace DebugProbe

/-- The request tells the probe that the host is connected. -/
def Request.TellsConnected (request : Request) : Prop := request = .hostStatus .connected true

namespace Session

variable {config : Config} {hint : Option WireProtocol} {known : Option Capabilities}
  {deeds : List Deed}

/-- The probe is told in the last phase only. -/
private theorem told_of_mem {capabilities : Capabilities} {protocol : WireProtocol}
    {phases : ConnectPhases} (taken : phases.Taken config capabilities protocol) {turn : Turn}
    (member : turn ∈ phases.turns) (tells : turn.request.TellsConnected) :
    turn ∈ phases.telling := by
  unfold ConnectPhases.turns at member
  simp only [List.mem_append] at member
  rcases member with (((attempt | opening) | reading) | powering) | telling
  · have other := taken.attempts.asks turn attempt
    rw [tells] at other
    nomatch other
  · obtain ⟨step, isStep, holds⟩ := taken.opening.exists_step opening
    have other := Config.isOpening_of_step isStep holds
    rw [tells] at other
    nomatch other
  · have other := taken.reading turn reading
    rw [tells] at other
    nomatch other
  · cases shape : phases.powering with
    | nil =>
      rw [shape] at powering
      nomatch powering
    | cons abort accesses =>
      have safe := taken.powering
      rw [shape] at powering safe
      rcases List.mem_cons.mp powering with rfl | access
      · have other := safe.clears turn rfl
        rw [Abort.Clears, tells] at other
        nomatch other
      · have other := safe.accesses turn access
        rw [tells] at other
        nomatch other
  · exact telling

/-- Nothing that asks what the probe can do tells it that the host is connected. -/
private theorem untold_inquiries
    (inquires : ∀ turn, .turn turn ∈ deeds → turn.request.isInquiry = true) {turn : Turn}
    (member : .turn turn ∈ deeds) : ¬turn.request.TellsConnected := by
  intro tells
  have inquiry := inquires turn member
  rw [tells] at inquiry
  nomatch inquiry

/-- Among the exchanges of the phases the probe answers to being told exactly if all succeeded. -/
private theorem told_iff {capabilities : Capabilities} {protocol : WireProtocol}
    {phases : ConnectPhases} (taken : phases.Taken config capabilities protocol) :
    phases.Told ↔
      ∃ turn ∈ phases.turns, turn.request.TellsConnected ∧ turn.result.isOk = true := by
  constructor
  · rintro ⟨turn, only, answered⟩
    rcases taken.telling with none | ⟨told, alone, tells⟩
    · rw [none] at only
      nomatch only
    · rw [alone] at only
      obtain rfl := List.head_eq_of_cons_eq only
      refine ⟨told, ?_, tells, answered⟩
      unfold ConnectPhases.turns
      rw [alone]
      exact List.mem_append_right _ (List.mem_singleton_self told)
  · rintro ⟨turn, member, tells, answered⟩
    have last := told_of_mem taken member tells
    rcases taken.telling with none | ⟨told, alone, -⟩
    · rw [none] at last
      nomatch last
    · rw [alone] at last
      obtain rfl := List.mem_singleton.mp last
      exact ⟨turn, alone, answered⟩

/-- A connect succeeds exactly if the probe was told that the host is connected, and answered. -/
theorem Connects.isOk_iff {result : Except SessionError WireProtocol}
    (connects : Connects config hint known result deeds) :
    result.isOk = true ↔
      ∃ turn, .turn turn ∈ deeds ∧ turn.request.TellsConnected ∧ turn.result.isOk = true := by
  cases connects with
  | @unknown error asking unrefused inquires =>
    refine ⟨nofun, ?_⟩
    rintro ⟨turn, member, tells, -⟩
    have asked : .turn turn ∈ asking := by
      split at member
      · simpa using member
      · exact member
    exact absurd tells (untold_inquiries inquires asked)
  | refused inquires refusal =>
    refine ⟨nofun, ?_⟩
    rintro ⟨turn, member, tells, -⟩
    exact absurd tells (untold_inquiries inquires member)
  | @foundered error asking capabilities protocol phases inquires chosen taken untold =>
    refine ⟨nofun, ?_⟩
    rintro ⟨turn, member, tells, answered⟩
    have among : .turn turn ∈ asking ∨ turn ∈ phases.turns := by simpa using member
    rcases among with asked | spoken
    · exact absurd tells (untold_inquiries inquires asked)
    · exact absurd ((told_iff taken).mpr ⟨turn, spoken, tells, answered⟩) untold
  | @done asking capabilities protocol phases inquires chosen taken told =>
    refine ⟨fun _ ↦ ?_, fun _ ↦ rfl⟩
    obtain ⟨turn, member, tells, answered⟩ := (told_iff taken).mp told
    exact ⟨turn, List.mem_append_right _ (List.mem_map_of_mem member), tells, answered⟩

/-- All that keeps a connect from selecting a protocol is a refusal. -/
private theorem isRefusal_of_selectProtocol {capabilities : Capabilities} {error : SessionError}
    (refusal : config.selectProtocol capabilities hint = .error error) :
    error.isRefusal = true := by
  rcases selectProtocol_cases config capabilities hint with
    ⟨other, chosen, selected⟩ | ⟨protocol, -, selected⟩
  · rw [selected] at refusal
    obtain rfl := Except.error.inj refusal
    unfold chooseProtocol at chosen
    split at chosen
    · nomatch chosen
    · split at chosen
      · nomatch chosen
      · rw [← Except.error.inj chosen]
        rfl
  · rw [selected] at refusal
    split at refusal
    · rw [← Except.error.inj refusal]
      rfl
    · nomatch refusal

/-- A connect is refused exactly if the probe cannot do what it is to do. -/
theorem Connects.isRefusal_iff {error : SessionError}
    (connects : Connects config hint known (.error error) deeds) :
    error.isRefusal = true ↔ ∃ capabilities, known = some capabilities ∧
      config.selectProtocol capabilities hint = .error error := by
  cases connects with
  | unknown unrefused inquires => simp [unrefused]
  | @refused _ _ capabilities inquires refusal =>
    exact ⟨fun _ ↦ ⟨capabilities, rfl, refusal⟩, fun _ ↦ isRefusal_of_selectProtocol refusal⟩
  | foundered inquires chosen taken untold unrefused => simp [unrefused, chosen]

/-- A connect that is refused asks for nothing but what the probe can do. -/
theorem Connects.inquires {error : SessionError}
    (connects : Connects config hint known (.error error) deeds)
    (refused : error.isRefusal = true) :
    ∀ turn, .turn turn ∈ deeds → turn.request.isInquiry = true := by
  cases connects with
  | unknown unrefused inquires => simp [unrefused] at refused
  | refused inquires refusal => exact inquires
  | foundered inquires chosen taken untold unrefused => simp [unrefused] at refused

/-- A connect of a session that is not connected takes one of its courses, in which each phase
begins only after the one before it succeeded. It succeeds exactly if the probe was told in the end
and answered. However it fails, nothing is connected and nothing waits; it is refused exactly if the
probe cannot do what it is to do, and then nothing else is asked for. -/
theorem Reached.connect_never_skips {σ : Type} [Transport σ] {session : Session (Recorded σ)}
    (reached : session.Reached) (disconnected : session.link.state.status = .disconnected)
    (hint : Option WireProtocol) :
    (connect hint).Yields session
      (fun protocol next ↦ ∃ deeds, session.link.transport.Saw deeds next.link.transport ∧
        Connects session.config hint next.capabilities (.ok protocol) deeds ∧
        (∃ turn, .turn turn ∈ deeds ∧ turn.request.TellsConnected ∧ turn.result.isOk = true) ∧
        next.link.state.status = .connected protocol)
      (fun error next ↦ ∃ deeds, session.link.transport.Saw deeds next.link.transport ∧
        Connects session.config hint next.capabilities (.error error) deeds ∧
        (¬∃ turn, .turn turn ∈ deeds ∧ turn.request.TellsConnected ∧ turn.result.isOk = true) ∧
        next.link.state.status = .disconnected ∧ next.link.batch = {} ∧
        (error.isRefusal = true ↔ ∃ capabilities, next.capabilities = some capabilities ∧
          session.config.selectProtocol capabilities hint = .error error) ∧
        (error.isRefusal = true → ∀ turn, .turn turn ∈ deeds → turn.request.isInquiry = true)) := by
  have closed : session.link.state.isConnected = false :=
    LinkState.isConnected_of_disconnected disconnected
  refine (connect_connects (reached.sound.blank closed) hint).imp ?_ ?_
  · rintro protocol next ⟨deeds, succeeds⟩
    exact ⟨deeds, succeeds.conversation.saw, succeeds.course, succeeds.course.isOk_iff.mp rfl,
      succeeds.status⟩
  · rintro error next ⟨deeds, fails⟩
    have blank := fails.blank
    refine ⟨deeds, fails.conversation.saw, fails.course, fun told ↦ ?_, ?_, blank.batch,
      fails.course.isRefusal_iff, fails.course.inquires⟩
    · nomatch fails.course.isOk_iff.mpr told
    · rw [blank.state]

/-- A new session over a simulated probe that refuses the port once and the line of which is woken
for one of several targets. -/
private def unconnected : Session (Recorded Simulator) :=
  .new { inner := { connectFailures := 1 } }
    { session := { protocol := .swd, targetSel := some 0x01002927 } }

private theorem isOk_unconnected : ((connect none).outcome unconnected).1.isOk = true := by
  decide +kernel

/-- A connect whose first attempt is refused still tells the probe in the end. -/
theorem Reached.connect_never_skips_unconnected :
    unconnected.Reached ∧ unconnected.link.state.status = .disconnected ∧
      ∃ deeds, unconnected.link.transport.Saw deeds
          ((connect none).outcome unconnected).2.link.transport ∧
        ∃ turn, .turn turn ∈ deeds ∧ turn.request.TellsConnected ∧
          turn.result.isOk = true := by
  have reached : unconnected.Reached := .new _ _
  refine ⟨reached, rfl, ?_⟩
  have connects := reached.connect_never_skips rfl none
  have succeeded := isOk_unconnected
  cases outcome : (connect none).outcome unconnected with
  | mk result next =>
    rw [outcome] at succeeded
    cases result with
    | error error => nomatch succeeded
    | ok protocol =>
      obtain ⟨deeds, saw, -, told, -⟩ := connects.of_ok outcome
      exact ⟨deeds, saw, told⟩

end Session

end DebugProbe
