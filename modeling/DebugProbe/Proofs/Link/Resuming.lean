import DebugProbe.Proofs.Link.Attempts
import DebugProbe.Proofs.Link.Block

/-!
# Blocks that resume

The attempts that a block transfer makes at the target: each access of the block is tried until it
is carried out, and after each WAIT the resume register is rewritten for it before it is tried
again.
-/

namespace DebugProbe

namespace RegisterAddress

instance (register : RegisterAddress) (select : UInt32) :
    Decidable (register.ReachedUnder select) :=
  match register with
  | .debug _ => inferInstanceAs (Decidable (_ → _))
  | .access _ _ => inferInstanceAs (Decidable (_ ∧ _))

/-- An access in the wire form of both registers may mean either. -/
def Coincides (register other : RegisterAddress) : Prop :=
  register.port = other.port ∧ register.wireAddress = other.wireAddress ∧
    ∃ select, register.ReachedUnder select ∧ other.ReachedUnder select

end RegisterAddress

namespace Attempt

/-- An access to a register that was carried out, with the word that a read gave. -/
def made? (register : RegisterAddress) (attempt : Attempt) : Option AccessEvent :=
  match attempt.result with
  | .error _ => none
  | .ok word =>
    if attempt.transfer.port = register.port ∧ attempt.transfer.address = register.wireAddress ∧
        register.ReachedUnder attempt.held then
      some (attempt.transfer, word)
    else none

end Attempt

namespace AttemptLog

/-- The attempts of a block, of which `completed` accesses were carried out before. An access that
has to wait is tried again once the resume register is rewritten; `words` came back from the
accesses that were carried out, and `left` are the others. -/
inductive BlockCourse (resume : Option BlockResume) : (completed : Nat) → List RegisterAccess →
    List Attempt → (words : List (Option UInt32)) → (left : List RegisterAccess) → Prop
  | stop (completed : Nat) (accesses : List RegisterAccess) :
      BlockCourse resume completed accesses [] [] accesses
  | access {completed : Nat} {access : RegisterAccess} {held : UInt32} {word : Option UInt32}
      {rest left : List RegisterAccess} {attempts : List Attempt} {words : List (Option UInt32)}
      (reached : access.register.ReachedUnder held) (kind : word.isSome = access.wire.isRead)
      (later : BlockCourse resume (completed + 1) rest attempts words left) :
      BlockCourse resume completed (access :: rest)
        (⟨access.wire, held, .ok word⟩ :: attempts) (word :: words) left
  | refused {completed : Nat} {access : RegisterAccess} {held : UInt32} {code : UInt8}
      {rest : List RegisterAccess} (reached : access.register.ReachedUnder held) :
      BlockCourse resume completed (access :: rest) [⟨access.wire, held, .error code⟩] []
        (access :: rest)
  | interrupted {completed : Nat} {access : RegisterAccess} {held : UInt32} {code : UInt8}
      {rest unmade : List RegisterAccess} {rearm : List Attempt}
      (reached : access.register.ReachedUnder held) (wait : (TransferStatus.ofByte code).IsWait)
      (between : Woven (Link.rearming resume completed) rearm unmade) :
      BlockCourse resume completed (access :: rest) (⟨access.wire, held, .error code⟩ :: rearm) []
        (access :: rest)
  | waited {completed : Nat} {access : RegisterAccess} {held : UInt32} {code : UInt8}
      {rest left : List RegisterAccess} {rearm attempts : List Attempt}
      {words : List (Option UInt32)} (reached : access.register.ReachedUnder held)
      (wait : (TransferStatus.ofByte code).IsWait)
      (between : Woven (Link.rearming resume completed) rearm [])
      (later : BlockCourse resume completed (access :: rest) attempts words left) :
      BlockCourse resume completed (access :: rest)
        (⟨access.wire, held, .error code⟩ :: (rearm ++ attempts)) words left

/-- Accesses that were carried out one after the other. -/
def made (held : UInt32) (accesses : List RegisterAccess) (words : List (Option UInt32)) :
    List Attempt :=
  List.zipWith (fun access word ↦ ⟨access.wire, held, .ok word⟩) accesses words

variable {resume : Option BlockResume}

/-- Some accesses of a block are carried out before the others. -/
theorem BlockCourse.prepend {completed : Nat} {held : UInt32} {accesses left : List RegisterAccess}
    {found words : List (Option UInt32)} {attempts : List Attempt}
    (reached : ∀ access ∈ accesses, access.register.ReachedUnder held)
    (kinds : found.map Option.isSome =
      (accesses.take found.length).map fun access ↦ access.wire.isRead)
    (later : BlockCourse resume (completed + found.length) (accesses.drop found.length) attempts
      words left) :
    BlockCourse resume completed accesses (made held accesses found ++ attempts) (found ++ words)
      left := by
  induction found generalizing completed accesses with
  | nil =>
    have none : made held accesses [] = [] := List.zipWith_nil_right
    rw [none]
    exact later
  | cons word found ih =>
    cases accesses with
    | nil => nomatch kinds
    | cons access rest =>
      obtain ⟨kind, kinds⟩ := List.cons.inj kinds
      have shifted : completed + (found.length + 1) = completed + 1 + found.length := by omega
      rw [List.length_cons, shifted] at later
      exact .access (reached access List.mem_cons_self) kind
        (ih (fun other member ↦ reached other (List.mem_cons_of_mem access member)) kinds later)

/-- A frame with the first accesses of a block makes those that are answered OK; the one after them
is refused, if there is one. -/
private theorem grown_of_answers {accesses : List RegisterAccess} {transfers : List Transfer}
    (first : transfers <+: accesses.map RegisterAccess.wire)
    (isAccess : ∀ access ∈ accesses, access.register.port = .access) {before after : AttemptLog}
    {found : List (Option UInt32)} {code : UInt8}
    (answers : model.Answers transfers before found code after) :
    after.select = before.select ∧
      (found.map Option.isSome =
        (accesses.take found.length).map fun access ↦ access.wire.isRead) ∧
      ∃ refusal, after.log = before.log ++ (made before.select accesses found ++ refusal) ∧
        (found.length = transfers.length ∧ refusal = [] ∨
          found.length < transfers.length ∧
          ∃ access rest, accesses.drop found.length = access :: rest ∧
            refusal = [⟨access.wire, before.select, .error code⟩]) := by
  induction answers generalizing accesses with
  | all success =>
    refine ⟨rfl, rfl, [], ?_, .inl ⟨rfl, rfl⟩⟩
    rw [made, List.zipWith_nil_right, List.append_nil, List.append_nil]
  | refused failure step =>
    cases accesses with
    | nil => nomatch List.prefix_nil.mp first
    | cons access rest =>
      obtain ⟨rfl, -⟩ := List.cons_prefix_cons.mp first
      refine ⟨tracks.refuses step, rfl, [_], ?_, .inr ⟨Nat.zero_lt_succ _, access, rest, rfl, rfl⟩⟩
      rw [made, List.zipWith_nil_right, step]
      rfl
  | @completed transfer others state next last word data code kind step later ih =>
    cases accesses with
    | nil => nomatch List.prefix_nil.mp first
    | cons access rest =>
      obtain ⟨rfl, more⟩ := List.cons_prefix_cons.mp first
      have same : next.select = state.select := (tracks.completes step).trans
        (Transfer.selectAfter_of_access (isAccess access List.mem_cons_self) _)
      obtain ⟨unchanged, kinds, refusal, kept, outcome⟩ :=
        ih more fun other member ↦ isAccess other (List.mem_cons_of_mem access member)
      rw [same] at kept outcome
      refine ⟨unchanged.trans same, by simp [kind, kinds], refusal, ?_, ?_⟩
      · rw [kept, step, List.append_assoc]
        rfl
      · rcases outcome with ⟨all, none⟩ | ⟨less, refused⟩
        · exact .inl ⟨congrArg Nat.succ all, none⟩
        · exact .inr ⟨Nat.succ_lt_succ less, refused⟩

section

variable {σ : Type} [Transport σ] {view : σ → AttemptLog} {ready broken : σ → Prop} {link : Link σ}

/-- A register is selected by writes of SELECT alone. -/
theorem select_woven (probe : TruthfulProbe model view ready broken)
    (config : TransferConfig) (free : Link.Free select view ready link)
    (register : RegisterAddress) :
    (Link.select config register).Yields link
      (fun _ next ↦ (Link.Did model select view ready link [] [] next ∧
          register.ReachedUnder (view next.transport).select) ∧
        (view link.transport).Grown (view next.transport) fun attempts ↦ Woven [] attempts [])
      (fun _ next ↦ (view link.transport).Grown (view next.transport) fun attempts ↦
        Woven [] attempts []) := by
  have selecting : (Link.select config register).Yields link
      (fun _ next ↦ (view link.transport).Grown (view next.transport) fun attempts ↦
        Woven [] attempts [])
      (fun _ next ↦ (view link.transport).Grown (view next.transport) fun attempts ↦
        Woven [] attempts []) := by
    unfold Link.select
    rw [Action.yields_bind, Action.yields_get]
    cases register.requiredSelect link.state.selectCache with
    | none => exact ⟨[], (List.append_nil _).symm, .stop []⟩
    | some needed =>
      rw [Action.yields_bind]
      refine (probe.run_tries config free.isReady free.batch _).imp ?_ ?_
      · rintro _ next ⟨left, tries⟩
        obtain ⟨_, attempts, kept, woven⟩ := woven_of_tries_entriesFor free.agrees tries
        exact ⟨attempts, kept, woven.of_selecting⟩
      · rintro _ next ⟨left, tries⟩
        obtain ⟨_, attempts, kept, woven⟩ := woven_of_tries_entriesFor free.agrees tries
        exact ⟨attempts, kept, woven.of_selecting⟩
  exact ((probe.select_reaches tracks config free register).and selecting).imp
    (fun _ _ both ↦ both) fun _ _ both ↦ both.2

/-- The resume register is rewritten once, and the register of the block selected again. -/
private theorem resumeBlock_woven (probe : TruthfulProbe model view ready broken)
    (config : TransferConfig) (free : Link.Free select view ready link)
    {register : RegisterAddress} (reached : register.ReachedUnder (view link.transport).select)
    (resumable : ∀ rewrite ∈ resume, rewrite.register.port = .access) (completed : Nat) :
    (Link.resumeBlock config register resume completed).Yields link
      (fun _ next ↦ Link.Free select view ready next ∧
        register.ReachedUnder (view next.transport).select ∧
        (view link.transport).Grown (view next.transport) fun attempts ↦
          Woven (Link.rearming resume completed) attempts [])
      (fun _ next ↦ ∃ unmade, (view link.transport).Grown (view next.transport) fun attempts ↦
        Woven (Link.rearming resume completed) attempts unmade) := by
  cases resume with
  | none => exact ⟨free, reached, [], (List.append_nil _).symm, .stop []⟩
  | some rewrite =>
    unfold Link.resumeBlock
    rw [Action.yields_bind]
    have isAccess : (RegisterAccess.write rewrite.register
        (rewrite.base + 4 * UInt32.ofNat completed)).register.port = .access :=
      resumable rewrite rfl
    refine (run_woven probe config free isAccess).imp ?_ fun _ _ stopped ↦ stopped
    rintro _ middle ⟨did, attempts, kept, woven⟩
    refine (select_woven probe config did.free register).imp ?_ ?_
    · rintro _ next ⟨⟨selected, reached⟩, more, later, selecting⟩
      refine ⟨selected.free, reached, attempts ++ more, ?_, woven.append selecting⟩
      rw [later, kept, List.append_assoc]
    · rintro _ next ⟨more, later, selecting⟩
      refine ⟨[], attempts ++ more, ?_, woven.append selecting⟩
      rw [later, kept, List.append_assoc]

/-- What a block transfer did from some state of the log on. -/
def Followed (resume : Option BlockResume) (register : RegisterAddress) (data : BlockData)
    (completed : Nat) (before after : AttemptLog) (found : List (Option UInt32))
    (left : List RegisterAccess) : Prop :=
  before.Grown after fun attempts ↦
    BlockCourse resume completed (data.accesses register) attempts found left

/-- The attempts of a frame: the accesses that it made and the one that was refused, if any. -/
private structure Framed (register : RegisterAddress) (data : BlockData) (asked : Nat)
    (before middle : AttemptLog) (found : List (Option UInt32)) (code : UInt8)
    (refusal : List Attempt) : Prop where
  unmoved : middle.select = before.select
  kinds : found.map Option.isSome =
    ((data.accesses register).take found.length).map fun access ↦ access.wire.isRead
  kept : middle.log =
    before.log ++ (made before.select (data.accesses register) found ++ refusal)
  outcome : found.length = asked ∧ refusal = [] ∨
    found.length < asked ∧
      ∃ access rest, (data.accesses register).drop found.length = access :: rest ∧
        access.register = register ∧ refusal = [⟨access.wire, before.select, .error code⟩]

/-- The attempts of a frame are told by its answer. -/
private theorem framed_of_answers {register : RegisterAddress} (isAccess : register.port = .access)
    {data : BlockData} {before middle : AttemptLog} {transfers : List Transfer}
    (first : transfers <+: (data.accesses register).map RegisterAccess.wire)
    {found : List (Option UInt32)} {code : UInt8}
    (answers : model.Answers transfers before found code middle) :
    ∃ refusal, Framed register data transfers.length before middle found code refusal := by
  have sameRegister := @BlockData.register_of_mem_accesses register data
  obtain ⟨select, kinds, refusal, kept, outcome⟩ := grown_of_answers first
    (fun access member ↦ by rw [sameRegister member]; exact isAccess) answers
  refine ⟨refusal, select, kinds, kept, ?_⟩
  rcases outcome with whole | ⟨less, access, rest, shape, refused⟩
  · exact .inl whole
  · have member : access ∈ data.accesses register :=
      List.mem_of_mem_drop (shape ▸ List.mem_cons_self)
    exact .inr ⟨less, access, rest, shape, sameRegister member, refused⟩

variable {register : RegisterAddress} {data : BlockData} {asked completed : Nat}
  {before middle after : AttemptLog} {found words : List (Option UInt32)} {code : UInt8}
  {refusal : List Attempt} {left : List RegisterAccess}

/-- What comes after a frame follows what the frame did. -/
private theorem Framed.followed
    (framed : Framed register data asked before middle found code refusal)
    (reached : register.ReachedUnder before.select)
    (later : middle.Grown after fun attempts ↦ BlockCourse resume (completed + found.length)
      ((data.accesses register).drop found.length) (refusal ++ attempts) words left) :
    Followed resume register data completed before after (found ++ words) left := by
  obtain ⟨attempts, kept, course⟩ := later
  refine ⟨made before.select (data.accesses register) found ++ (refusal ++ attempts), ?_,
    course.prepend ?_ framed.kinds⟩
  · rw [kept, framed.kept]
    simp only [List.append_assoc]
  · intro access member
    rw [BlockData.register_of_mem_accesses member]
    exact reached

/-- A frame that was not answered OK had an access refused. -/
private theorem Framed.waits (framed : Framed register data asked before middle found code refusal)
    (less : found.length < asked) :
    ∃ access rest, (data.accesses register).drop found.length = access :: rest ∧
      access.register = register ∧ refusal = [⟨access.wire, before.select, .error code⟩] := by
  rcases framed.outcome with ⟨all, -⟩ | ⟨-, refused⟩
  · exact absurd all (Nat.ne_of_lt less)
  · exact refused

/-- What comes after a WAIT and the rewrite for it follows what the frame did. -/
private theorem Framed.waited (framed : Framed register data asked before middle found code refusal)
    (less : found.length < asked) (reached : register.ReachedUnder before.select)
    (wait : (TransferStatus.ofByte code).IsWait) {resumed : AttemptLog}
    (rearmed : middle.Grown resumed fun attempts ↦
      Woven (Link.rearming resume (completed + found.length)) attempts [])
    (later : Followed resume register (data.rest found.length) (completed + found.length) resumed
      after words left) :
    Followed resume register data completed before after (found ++ words) left := by
  obtain ⟨access, rest, shape, rfl, rfl⟩ := framed.waits less
  obtain ⟨rearm, keptRearm, woven⟩ := rearmed
  obtain ⟨attempts, kept, course⟩ := later
  rw [BlockData.accesses_rest, shape] at course
  refine framed.followed reached ⟨rearm ++ attempts, ?_, ?_⟩
  · rw [kept, keptRearm, List.append_assoc]
  · rw [shape]
    show BlockCourse _ _ _ (_ :: (rearm ++ attempts)) _ _
    exact .waited reached wait woven course

omit [Transport σ] in
/-- A link is free for more after a frame that was answered. -/
private theorem Framed.free {next : σ}
    (framed : Framed register data asked (view link.transport) (view next) found code refusal)
    (isReady : ready next) (free : Link.Free select view ready link)
    (reached : register.ReachedUnder (view link.transport).select) :
    Link.Free select view ready { link with transport := next } ∧
      register.ReachedUnder (view next).select := by
  refine ⟨⟨isReady, free.batch, ?_⟩, ?_⟩
  · rw [framed.unmoved]
    exact free.agrees
  · rw [framed.unmoved]
    exact reached

/-- A block may end with a frame. -/
private theorem Framed.ended (framed : Framed register data asked before middle found code refusal)
    (reached : register.ReachedUnder before.select) :
    ∃ found left, Followed resume register data completed before middle found left := by
  rcases framed.outcome with ⟨-, rfl⟩ | ⟨-, access, rest, shape, rfl, rfl⟩
  · exact ⟨_, _, framed.followed reached ⟨[], (List.append_nil _).symm, .stop _ _⟩⟩
  · refine ⟨found ++ [], access :: rest,
      framed.followed reached ⟨[], (List.append_nil _).symm, ?_⟩⟩
    rw [shape]
    exact .refused reached

/-- A block is sent frame by frame, and resumed after each WAIT. -/
theorem sendBlock_course (probe : TruthfulProbe model view ready broken)
    (config : TransferConfig) (isAccess : register.port = .access)
    (resumable : ∀ rewrite ∈ resume, rewrite.register.port = .access) {maxWords : Nat}
    (few : maxWords ≤ 65535) (data : BlockData) (completed waits : Nat) {link : Link σ}
    (free : Link.Free select view ready link)
    (reached : register.ReachedUnder (view link.transport).select) :
    (Link.sendBlock config register resume maxWords data completed waits).Yields link
      (fun words next ↦ ∃ found, words = found.filterMap id ∧
        Followed resume register data completed (view link.transport) (view next.transport) found
          [])
      (fun _ next ↦ ∃ found left,
        Followed resume register data completed (view link.transport) (view next.transport) found
          left) := by
  induction data, completed, waits using @Link.sendBlock_induction (Link.waitLimit config)
    generalizing link with
  | nil data completed waits empty =>
    rw [Link.sendBlock, if_pos empty]
    have none : data.accesses register = [] :=
      List.eq_nil_of_length_eq_zero ((data.length_accesses register).trans empty)
    unfold Followed
    rw [none]
    exact ⟨[], rfl, [], (List.append_nil _).symm, .stop _ _⟩
  | frame data completed waits left progressing again =>
    have first : ((((data.accesses register).take (Link.blockFrame data maxWords)).map
        RegisterAccess.transfer).map Transfer.onWire) <+:
        (data.accesses register).map RegisterAccess.wire := by
      rw [List.map_map]
      exact (List.take_prefix _ _).map _
    have length : ((((data.accesses register).take (Link.blockFrame data maxWords)).map
        RegisterAccess.transfer).map Transfer.onWire).length = Link.blockFrame data maxWords := by
      rw [List.length_map, List.length_map, List.length_take, BlockData.length_accesses]
      exact Nat.min_eq_left (Nat.min_le_left _ _)
    apply probe.sendBlock_step free.isReady few left rfl rfl
    case breaking =>
      rintro error next isBroken ⟨-, -, part, found, code, before, answers⟩
      obtain ⟨refusal, framed⟩ := framed_of_answers isAccess (before.trans first) answers
      exact framed.ended reached
    case whole =>
      intro found status next answered all
      obtain ⟨isReady, -, answers⟩ := answered
      obtain ⟨refusal, framed⟩ := framed_of_answers isAccess first answers
      rw [length] at framed
      obtain rfl : refusal = [] := by
        rcases framed.outcome with ⟨-, none⟩ | ⟨less, -⟩
        · exact none
        · omega
      obtain ⟨still, reachedNext⟩ := framed.free isReady free reached
      have progress : 0 < found.length := by
        rw [all]
        unfold Link.blockFrame
        omega
      refine (progressing _ progress still reachedNext).imp ?_ ?_
      · rintro words last ⟨more, rfl, followed⟩
        rw [Followed, BlockData.accesses_rest] at followed
        exact ⟨_, List.filterMap_append.symm, framed.followed reached followed⟩
      · rintro error last ⟨more, left, followed⟩
        rw [Followed, BlockData.accesses_rest] at followed
        exact ⟨_, left, framed.followed reached followed⟩
    case waiting =>
      intro found status next answered less wait more
      obtain ⟨isReady, -, answers⟩ := answered
      obtain ⟨refusal, framed⟩ := framed_of_answers isAccess first answers
      rw [length] at framed
      obtain ⟨still, reachedNext⟩ := framed.free isReady free reached
      refine (resumeBlock_woven probe config still reachedNext resumable _).imp ?_ ?_
      · rintro _ middle ⟨ready, reachedMiddle, rearmed⟩
        refine (again _ more ready reachedMiddle).imp ?_ ?_
        · rintro words last ⟨others, rfl, followed⟩
          exact ⟨_, List.filterMap_append.symm, framed.waited less reached wait rearmed followed⟩
        · rintro error last ⟨others, left, followed⟩
          exact ⟨_, left, framed.waited less reached wait rearmed followed⟩
      · rintro error last ⟨unmade, rearm, kept, woven⟩
        obtain ⟨access, rest, shape, rfl, rfl⟩ := framed.waits less
        refine ⟨found ++ [], access :: rest, framed.followed reached ⟨rearm, kept, ?_⟩⟩
        rw [shape]
        exact .interrupted reached wait woven
    case ended =>
      intro found status next failure error sticky pending answered less ends
      obtain ⟨refusal, framed⟩ := framed_of_answers isAccess first answered.2.2
      exact framed.ended reached

end

end AttemptLog

end DebugProbe
