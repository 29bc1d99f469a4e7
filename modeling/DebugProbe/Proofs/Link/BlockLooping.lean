import DebugProbe.Proofs.Link.Looping

/-!
# Blocks as loops that retry

Transferring a block follows the course of a loop that retries after a WAIT. It believes an answer
that contradicts itself and runs single accesses between a WAIT and the next frame. Nothing is
assumed about the transport.
-/

namespace DebugProbe

open Turn (Apart)

variable {σ : Type} [Transport σ]

namespace Link

/-- The loop that transfers a block over packets of a size. -/
def blockLoop (config : TransferConfig) (dapIndex : UInt8) (register : RegisterAddress)
    (packetSize : Nat) (data : BlockData) : RetryLoop where
  size := data.size
  limit := waitLimit config
  command := .transferBlock
  request position _ := .transferBlock ⟨dapIndex, register.port, register.wireAddress,
    (data.rest position).front
      (blockFrame (data.rest position) (BlockRequest.maxWords packetSize))⟩
  trusting := true
  aside := Apart .transferBlock
  limit_pos := waitLimit_pos config
  command_eq _ _ := rfl
  asks_pos {position} _ left := by
    have few : BlockRequest.maxWords packetSize ≤ 65535 := Nat.min_le_right _ _
    show 0 < ((data.rest position).front _).count.toNat
    unfold blockFrame
    rw [BlockData.announced_front _ (Nat.min_le_left _ _) (by omega), BlockData.size_rest]
    omega
  asks_le {position} _ left := by
    have few : BlockRequest.maxWords packetSize ≤ 65535 := Nat.min_le_right _ _
    show position + ((data.rest position).front _).count.toNat ≤ data.size
    unfold blockFrame
    rw [BlockData.announced_front _ (Nat.min_le_left _ _) (by omega), BlockData.size_rest]
    omega
  aside_apart apart := apart

/-- Exchanges of transfer commands took place, and ended as their answers warrant. -/
def RunsApart (link : Link σ) (ending : Option AccessError) (next : Link σ) : Prop :=
  ∃ turns, link.Led turns next ∧ Apart .transferBlock turns ending

/-- No entry waits if no access does. -/
def Tidy (link : Link σ) : Prop := link.batch.isEmpty = true → link.batch = {}

section Apart

variable {link middle next : Link σ} {turns : List Turn} {ending : Option AccessError}
  {error : AccessError}

theorem runsApart_nil (link : Link σ) (notExhausted : ending ≠ some .retryExhausted)
    (blameless : ending ≠ some (.unexpectedAnswer .transferBlock)) : link.RunsApart ending link :=
  ⟨[], led_nil link, Turn.apart_nil notExhausted blameless⟩

theorem runsApart_none (link : Link σ) : link.RunsApart none link :=
  runsApart_nil link (Option.some_ne_none _).symm (Option.some_ne_none _).symm

theorem RunsApart.append (first : link.RunsApart none middle)
    (second : middle.RunsApart ending next) : link.RunsApart ending next := by
  obtain ⟨turns, led, apart⟩ := first
  obtain ⟨later, after, also⟩ := second
  exact ⟨turns ++ later, led.append after, apart.append also⟩

/-- The exchanges of a batch are apart from those of a block. -/
theorem FollowsBatch.runsApart {config : TransferConfig} {all : List BatchEntry}
    (follows : FollowsBatch config all 0 0 link turns ending next) :
    link.RunsApart ending next := by
  obtain ⟨led, course⟩ := follows
  refine ⟨turns, led, ?_, course.candid nofun, ?_, ?_⟩
  · intro turn member
    rw [course.isCommand (fun _ _ still ↦ still.1) turn member]
    nofun
  · rintro rfl
    exact course.ne_nil_of_error
  · rintro rfl
    obtain ⟨turn, waits, -, -, ends⟩ := course.exists_ends fun _ _ still ↦ (nomatch still.2)
    generalize shape : AccessError.unexpectedAnswer .transferBlock = error at ends
    cases ends with
    | lost => nomatch shape
    | miscounted => nomatch shape
    | contradicted => nomatch shape
    | failed _ _ _ _ kind =>
      rcases kind with rfl | rfl
      · nomatch shape
      · nomatch shape
    | exhausted => nomatch shape

omit [Transport σ] in
theorem Queued.tidy {calls : List (RegisterAccess × Nat)}
    (queued : Queued σ calls link.batch) : link.Tidy := by
  intro empty
  generalize link.batch = batch at queued empty
  cases queued with
  | empty => rfl
  | @queue calls packetSize index access before after queued call =>
    obtain ⟨pushed, -⟩ := push?_of_queue call
    obtain ⟨-, shape⟩ := Batch.push?_eq_some_iff.mp pushed
    rw [shape] at empty
    nomatch empty

theorem Led.tidy (led : link.Led turns next) (none : link.batch = {}) : next.Tidy :=
  fun _ ↦ led.batch.trans none

/-- A single access goes out apart from blocks. -/
theorem run_apart (config : TransferConfig) (access : RegisterAccess) (tidy : link.Tidy) :
    (run config access).Yields link
      (fun _ next ↦ link.batch = {} ∧ link.RunsApart none next)
      (fun error next ↦ link.RunsApart (some error) next) := by
  unfold run
  rw [Action.yields_bind, yields_checkNoneQueued]
  refine ⟨fun _ ↦ runsApart_nil link nofun nofun, fun empty ↦ ?_⟩
  have none := tidy empty
  rw [Action.yields_bind, yields_onProbe]
  show Action.Yields _ link _ _
  rw [Action.yields_bind, yields_queue, yields_checkReady]
  refine ⟨fun _ ↦ runsApart_nil link nofun nofun, fun _ _ ↦ runsApart_nil link nofun nofun,
    fun _ _ ↦ ?_⟩
  cases pushed : link.batch.push? link.state.selectCache _ access with
  | none => exact runsApart_nil link nofun nofun
  | some batch =>
    obtain ⟨-, shape⟩ := Batch.push?_eq_some_iff.mp pushed
    rw [none] at shape
    have entries : batch.entries = Batch.entriesFrom link.state.selectCache 0 [access] := by
      rw [shape]
      exact (List.append_nil _).symm
    have same : ({ link with batch } : Link σ).discard = link := by
      show ({ link with batch := {} } : Link σ) = link
      rw [← none]
    have ends := Batch.last_entriesFrom link.state.selectCache 0 [access]
    rw [← entries] at ends
    have flushing := @yields_flush_course σ _ config { link with batch } ends
    rw [same] at flushing
    dsimp only
    rw [Action.yields_bind]
    refine flushing.imp ?_ ?_
    · rintro responses next ⟨turns, ending, follows, told⟩
      have only : responses.map AccessResponse.index = [0] := by
        rw [told.index, entries, Batch.origins_entriesFrom]
        rfl
      obtain ⟨response, rest, rfl, -, last⟩ := List.map_eq_cons_iff.mp only
      obtain rfl := List.map_eq_nil_iff.mp last
      obtain rfl := told.eq_failure.trans (Batch.failure?_singleton response)
      by_cases ok : response.status = .ok
      · rw [ok] at follows
        dsimp only
        rw [AccessResponse.result_of_ok ok, Action.yields_ofExcept]
        exact ⟨none, follows.runsApart⟩
      · rw [AccessStatus.failure?_of_ne_ok ok] at follows
        dsimp only
        rw [AccessResponse.result_of_not_ok ok, Action.yields_ofExcept]
        exact follows.runsApart
    · rintro error next (⟨refused, after⟩ | ⟨-, turns, follows⟩)
      · rw [after]
        rcases refused with rfl | rfl
        · exact runsApart_nil link nofun nofun
        · exact runsApart_nil link nofun nofun
      · exact follows.runsApart

/-- A register is selected apart from blocks. -/
theorem select_apart (config : TransferConfig) (register : RegisterAddress) (tidy : link.Tidy) :
    (select config register).Yields link (fun _ next ↦ link.RunsApart none next)
      (fun error next ↦ link.RunsApart (some error) next) := by
  unfold select
  rw [Action.yields_bind, Action.yields_get]
  cases register.requiredSelect link.state.selectCache with
  | none => exact runsApart_none link
  | some needed =>
    rw [Action.yields_bind]
    exact (run_apart config _ tidy).imp (fun _ _ ↦ And.right) fun _ _ apart ↦ apart

/-- A block is prepared to go on apart from its frames. -/
theorem resumeBlock_apart (config : TransferConfig) (register : RegisterAddress)
    (resume : Option BlockResume) (completed : Nat) (tidy : link.Tidy) :
    (resumeBlock config register resume completed).Yields link
      (fun _ next ↦ link.RunsApart none next)
      (fun error next ↦ link.RunsApart (some error) next) := by
  cases resume with
  | none => exact runsApart_none link
  | some resume =>
    unfold resumeBlock
    rw [Action.yields_bind]
    refine (run_apart config _ tidy).imp ?_ fun _ _ apart ↦ apart
    rintro _ middle ⟨none, apart⟩
    have again : middle.Tidy := apart.elim fun _ between ↦ between.1.tidy none
    exact (select_apart config register again).imp (fun _ _ later ↦ apart.append later)
      fun _ _ later ↦ apart.append later

end Apart

/-- Sending the words from a position on follows the loop of their block. -/
def FollowsBlock (config : TransferConfig) (register : RegisterAddress) (packetSize : Nat)
    (all : BlockData) (position waits : Nat) (link : Link σ) (turns : List Turn)
    (ending : Option AccessError) (next : Link σ) : Prop :=
  link.Led turns next ∧
    (blockLoop config link.state.dapIndex register packetSize all).Course position waits turns
      ending

/-- A frame of a block that asks for some words was answered, which left a link. -/
structure AnswersBlock (link : Link σ) (register : RegisterAddress) (data : BlockData)
    (asked : Nat) (turn : Turn) (reply : BlockReply) (middle : Link σ) : Prop where
  request : turn.request = .transferBlock
    ⟨link.state.dapIndex, register.port, register.wireAddress, data.front asked⟩
  report : turn.report? = some ⟨asked, reply.count, reply.status⟩
  within : reply.count ≤ asked
  led : link.Led [turn] middle

/-- Sending words is sending a frame, and then what the answer calls for: the words that are left,
after a WAIT once the target is prepared for them, or giving up on the block. -/
theorem yields_sendBlock_cons {config : TransferConfig} {register : RegisterAddress}
    {resume : Option BlockResume} {maxWords completed waits asked : Nat} {data : BlockData}
    {link : Link σ} {post : Link σ → Prop} {failed : AccessError → Link σ → Prop}
    (some : 0 < data.size) (isFrame : asked = blockFrame data maxWords)
    (announced : (data.front asked).count.toNat = asked)
    (whole : ∀ {turn reply middle}, AnswersBlock link register data asked turn reply middle →
      reply.status.isOk = true → reply.count = asked →
      (sendBlock config register resume maxWords (data.rest reply.count)
        (completed + reply.count) 0).Yields middle (fun _ ↦ post) failed)
    (again : ∀ {turn reply middle}, AnswersBlock link register data asked turn reply middle →
      reply.status.IsWait →
      blockWaits waits reply.count < waitLimit config →
      (resumeBlock config register resume (completed + reply.count)).Yields middle
        (fun _ prepared ↦ (sendBlock config register resume maxWords (data.rest reply.count)
          (completed + reply.count) (blockWaits waits reply.count)).Yields prepared
            (fun _ ↦ post) failed) failed)
    (exhausted : ∀ {turn reply middle}, AnswersBlock link register data asked turn reply middle →
      reply.status.IsWait →
      waitLimit config ≤ blockWaits waits reply.count → failed .retryExhausted middle)
    (ended : ∀ {turn reply middle}, AnswersBlock link register data asked turn reply middle →
      reply.status.isOk = false → ¬reply.status.IsWait →
      ∀ {failure : AccessStatus}, failure = .fault ∨ failure = .noResponse →
        failed (.ofStatus failure) middle)
    (miscounted : ∀ {turn reply middle}, AnswersBlock link register data asked turn reply middle →
      reply.status.isOk = true → reply.count ≠ asked →
      failed (.unexpectedAnswer .transferBlock) middle)
    (lost : ∀ {turn cause next}, turn.request = .transferBlock
        ⟨link.state.dapIndex, register.port, register.wireAddress, data.front asked⟩ →
      turn.report? = none → link.Led [turn] next →
      failed (.command (.exchange .transferBlock cause)) next) :
    (sendBlock config register resume maxWords data completed waits).Yields link (fun _ ↦ post)
      failed := by
  rw [sendBlock, if_neg (Nat.ne_of_gt some)]
  unfold blockFrame at isFrame
  simp only [← isFrame, Action.yields_bind, Action.yields_get, Action.yields_onError,
    yields_command]
  refine (Probe.yields_transferBlock_report _ _).imp ?_ ?_
  · rintro reply transport ⟨within, turn, request, report, conversation⟩
    have answers : AnswersBlock link register data asked turn reply { link with transport } := by
      refine ⟨request, ?_, Nat.le_trans within (Nat.le_of_eq announced), led_turn conversation⟩
      rw [report]
      exact congrArg (fun asked ↦ Option.some (AccessReport.mk asked _ _)) announced
    rw [Action.yields_ite]
    constructor
    · intro ok
      rw [Action.yields_ite]
      constructor
      · intro complete
        rw [Action.yields_bind]
        exact whole answers ok complete
      · intro part
        exact miscounted { answers with led := answers.led.forget } ok part
    · intro notOk
      have notOk := Bool.eq_false_iff.mpr notOk
      rw [Action.yields_bind, yields_noteFailure]
      rcases classify_cases reply.status link.state with
        ⟨wait, classified⟩ | ⟨failure, sticky, pending, classified, notWait, kind⟩
      · rw [classified]
        dsimp only
        rw [Action.yields_ite]
        constructor
        · intro many
          exact exhausted { answers with led := answers.led.forget } wait many
        · intro more
          simp only [Action.yields_bind]
          exact again answers wait (Nat.lt_of_not_le more)
      · rw [classified]
        exact ended { answers with led := (answers.led.restate (by rfl)).forget } notOk notWait kind
  · rintro _ transport ⟨turn, cause, request, silent, rfl, conversation⟩
    exact lost request silent (led_turn conversation).forget

section

variable {config : TransferConfig} {register : RegisterAddress} {packetSize asked : Nat}
  {all data : BlockData} {completed waits : Nat} {link middle next prepared : Link σ} {turn : Turn}
  {reply : BlockReply} {turns between : List Turn} {ending : Option AccessError}

omit [Transport σ] in
/-- The frame of a block is the one that its loop asks for. -/
private theorem asks_blockFrame (here : all.rest completed = data)
    (isFrame : asked = blockFrame data (BlockRequest.maxWords packetSize))
    (request : turn.request = .transferBlock
      ⟨link.state.dapIndex, register.port, register.wireAddress, data.front asked⟩) :
    turn.request = (blockLoop config link.state.dapIndex register packetSize all).request
      completed waits := by
  rw [request, isFrame, ← here]
  rfl

namespace AnswersBlock

/-- Its report is believed even if all words are said to be done and the last one to wait. -/
theorem believed (answers : AnswersBlock link register data asked turn reply middle) :
    (blockLoop config link.state.dapIndex register packetSize all).Believes
      ⟨asked, reply.count, reply.status⟩ :=
  (Nat.lt_or_eq_of_le answers.within).imp id fun same ↦ ⟨rfl, same⟩

/-- A frame that ended the loop follows it. -/
theorem follows_ends (answers : AnswersBlock link register data asked turn reply middle)
    (left : completed < all.size) (here : all.rest completed = data)
    (isFrame : asked = blockFrame data (BlockRequest.maxWords packetSize)) {error : AccessError}
    (ends : (blockLoop config link.state.dapIndex register packetSize all).Ends waits turn error) :
    FollowsBlock config register packetSize all completed waits link [turn] (some error) middle :=
  ⟨answers.led, .ends left (asks_blockFrame here isFrame answers.request) ends⟩

/-- A frame that completed follows the loop with what comes after it. -/
theorem follows_whole (answers : AnswersBlock link register data asked turn reply middle)
    (left : completed < all.size) (here : all.rest completed = data)
    (isFrame : asked = blockFrame data (BlockRequest.maxWords packetSize))
    (ok : reply.status.isOk = true) (complete : reply.count = asked)
    (follows : FollowsBlock config register packetSize all (completed + reply.count) 0 middle turns
      ending next) :
    FollowsBlock config register packetSize all completed waits link (turn :: turns) ending
      next := by
  obtain ⟨later, course⟩ := follows
  rw [answers.led.dapIndex] at course
  exact ⟨answers.led.append later, .completes left
    (asks_blockFrame here isFrame answers.request) answers.report ⟨complete, ok⟩ course⟩

/-- A frame that stopped at a word that has to wait follows the loop with the accesses that prepare
the target for it and what comes after them. -/
theorem follows_wait (answers : AnswersBlock link register data asked turn reply middle)
    (left : completed < all.size) (here : all.rest completed = data)
    (isFrame : asked = blockFrame data (BlockRequest.maxWords packetSize))
    (wait : reply.status.IsWait) (fewer : blockWaits waits reply.count < waitLimit config)
    (aside : middle.Led between prepared) (apart : Apart .transferBlock between none)
    (follows : FollowsBlock config register packetSize all (completed + reply.count)
      (blockWaits waits reply.count) prepared turns ending next) :
    FollowsBlock config register packetSize all completed waits link (turn :: (between ++ turns))
      ending next := by
  have before := answers.led.append aside
  obtain ⟨later, course⟩ := follows
  rw [before.dapIndex] at course
  exact ⟨before.append later, .waits left (asks_blockFrame here isFrame answers.request)
    answers.report wait answers.believed fewer apart course⟩

end AnswersBlock

end

/-- The words of a block are sent along the course of its loop. -/
theorem yields_sendBlock_course (config : TransferConfig) (register : RegisterAddress)
    (resume : Option BlockResume) (packetSize : Nat) {all : BlockData} (data : BlockData)
    (completed waits : Nat) : ∀ {link : Link σ}, all.rest completed = data →
      waits < waitLimit config → link.batch = {} →
      (sendBlock config register resume (BlockRequest.maxWords packetSize) data completed
        waits).Yields link
        (fun _ next ↦ ∃ turns,
          FollowsBlock config register packetSize all completed waits link turns none next)
        (fun error next ↦ ∃ turns,
          FollowsBlock config register packetSize all completed waits link turns (some error)
            next) := by
  induction data, completed, waits using @sendBlock_induction (waitLimit config) with
  | nil data completed waits empty =>
    intro link here few none
    have done : all.size ≤ completed := by
      have size := all.size_rest completed
      rw [here, empty] at size
      omega
    rw [sendBlock, if_pos empty, Action.yields_pure]
    exact ⟨[], led_nil link, .all waits done⟩
  | frame data completed waits some progressing again =>
    intro link here few none
    have left : completed < all.size := by
      have size := all.size_rest completed
      rw [here] at size
      omega
    have small : BlockRequest.maxWords packetSize ≤ 65535 := Nat.min_le_right _ _
    obtain ⟨asked, isFrame⟩ :
        ∃ asked, asked = blockFrame data (BlockRequest.maxWords packetSize) := ⟨_, rfl⟩
    have positive : 0 < asked := by
      unfold blockFrame at isFrame
      omega
    have announced : (data.front asked).count.toNat = asked := by
      unfold blockFrame at isFrame
      exact data.announced_front (by omega) (by omega)
    have further (count : Nat) : all.rest (completed + count) = data.rest count := by
      rw [← here, BlockData.rest_rest]
    apply yields_sendBlock_cons some isFrame announced
    case whole =>
      intro turn reply middle answers ok complete
      refine (progressing _ (by omega) (further _) (waitLimit_pos config)
        (answers.led.batch.trans none)).imp ?_ ?_
      · rintro words next ⟨turns, follows⟩
        exact ⟨turn :: turns, answers.follows_whole left here isFrame ok complete follows⟩
      · rintro error next ⟨turns, follows⟩
        exact ⟨turn :: turns, answers.follows_whole left here isFrame ok complete follows⟩
    case again =>
      intro turn reply middle answers wait fewer
      have tidy : middle.Tidy := fun _ ↦ answers.led.batch.trans none
      refine (resumeBlock_apart config register resume (completed + reply.count) tidy).imp ?_ ?_
      · rintro _ prepared ⟨between, aside, apart⟩
        have ready := (answers.led.append aside).batch.trans none
        refine (again _ fewer (further _) fewer ready).imp ?_ ?_
        · rintro words next ⟨turns, follows⟩
          exact ⟨_, answers.follows_wait left here isFrame wait fewer aside apart follows⟩
        · rintro error next ⟨turns, follows⟩
          exact ⟨_, answers.follows_wait left here isFrame wait fewer aside apart follows⟩
      · rintro error next ⟨between, halted, apart⟩
        exact ⟨turn :: between, answers.led.append halted, .halts left
          (asks_blockFrame here isFrame answers.request) answers.report wait answers.believed
          fewer apart⟩
    case exhausted =>
      intro turn reply middle answers wait many
      exact ⟨[turn], answers.follows_ends left here isFrame
        (.exhausted answers.report wait answers.believed many)⟩
    case ended =>
      intro turn reply middle answers notOk notWait failure kind
      exact ⟨[turn], answers.follows_ends left here isFrame
        (.failed answers.report notOk notWait answers.believed kind)⟩
    case miscounted =>
      intro turn reply middle answers ok part
      exact ⟨[turn], answers.follows_ends left here isFrame
        (.miscounted answers.report ok part)⟩
    case lost =>
      intro turn cause next request silent led
      exact ⟨[turn], led, .ends left (asks_blockFrame here isFrame request) (.lost silent cause)⟩

/-- A block transfer follows the loop of its block, once the register is selected, or ends before
the first frame of the block. -/
theorem yields_block_course (config : TransferConfig) (register : RegisterAddress)
    (data : BlockData) (resume : Option BlockResume) {link : Link σ} (tidy : link.Tidy) :
    (block config register data resume).Yields link
      (fun _ next ↦ ∃ middle packetSize turns, link.RunsApart none middle ∧
        FollowsBlock config register packetSize data 0 0 middle turns none next)
      (fun error next ↦ link.RunsApart (some error) next ∨ ∃ middle packetSize turns,
        link.RunsApart none middle ∧
          FollowsBlock config register packetSize data 0 0 middle turns (some error) next) := by
  unfold block
  rw [Action.yields_bind, yields_checkReady]
  refine ⟨fun _ ↦ .inl (runsApart_nil link nofun nofun),
    fun _ _ ↦ .inl (runsApart_nil link nofun nofun), fun _ _ ↦ ?_⟩
  rw [Action.yields_bind, yields_checkNoneQueued]
  refine ⟨fun _ ↦ .inl (runsApart_nil link nofun nofun), fun empty ↦ ?_⟩
  have none := tidy empty
  rw [Action.yields_bind]
  refine (select_apart config register tidy).imp ?_ fun _ _ apart ↦ .inl apart
  rintro _ middle ⟨turns, led, apart⟩
  rw [Action.yields_bind, yields_onProbe]
  show Action.Yields _ middle _ _
  refine (yields_sendBlock_course config register resume
    (Transport.packetSize middle.transport) data 0 0 data.rest_zero (waitLimit_pos config)
    (led.batch.trans none)).imp ?_ ?_
  · rintro words next ⟨later, follows⟩
    exact ⟨middle, _, later, ⟨turns, led, apart⟩, follows⟩
  · rintro error next ⟨later, follows⟩
    exact .inr ⟨middle, _, later, ⟨turns, led, apart⟩, follows⟩

end Link

end DebugProbe
