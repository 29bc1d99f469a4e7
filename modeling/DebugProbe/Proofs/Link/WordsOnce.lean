import DebugProbe.Proofs.Link.BlockLooping
import DebugProbe.Proofs.Link.Resuming
import DebugProbe.Proofs.Simulator.Watched

/-!
# Each word of a block once

Of the attempts that a block transfer makes, those that are carried out on the register of the block
are the accesses that were asked for, in order and each once: all of them if the transfer succeeds,
and the first ones if it fails. What else is carried out are writes of SELECT and, after each WAIT,
one rewrite of the resume register for the words done so far.
-/

namespace DebugProbe

variable {register : RegisterAddress} {resume : Option BlockResume}

/-- Word-aligned access port registers that coincide are the same. -/
theorem RegisterAddress.eq_of_coincides {accessPort otherPort address otherAddress : UInt8}
    (aligned : address &&& 3 = 0) (otherAligned : otherAddress &&& 3 = 0)
    (coincides : Coincides (.access accessPort address) (.access otherPort otherAddress)) :
    accessPort = otherPort ∧ address = otherAddress := by
  obtain ⟨-, wire, select, ⟨port, bank⟩, otherSame, otherBank⟩ := coincides
  refine ⟨port.symm.trans otherSame, ?_⟩
  have high : address >>> 4 = otherAddress >>> 4 := bank.symm.trans otherBank
  have low : address &&& 0x0C = otherAddress &&& 0x0C := wire
  have parts (byte : UInt8) :
      byte = ((byte >>> 4) <<< 4) ||| (byte &&& 0x0C) ||| (byte &&& 3) := by
    cases byte with
    | ofBitVec bits =>
      revert bits
      decide
  rw [parts address, parts otherAddress, high, low, aligned, otherAligned]

namespace Attempt

theorem made?_selecting (isAccess : register.port = .access) (value : Select) (held : UInt32)
    (result : Except UInt8 (Option UInt32)) :
    made? register ⟨(BatchEntry.selecting value).wire, held, result⟩ = none := by
  cases result with
  | error code => rfl
  | ok word => exact if_neg fun ⟨side, _⟩ ↦ nomatch side.trans isAccess

theorem made?_access {access : RegisterAccess} (same : access.register = register) {held : UInt32}
    (reached : access.register.ReachedUnder held) (word : Option UInt32) :
    made? register ⟨access.wire, held, .ok word⟩ = some (access.wire, word) := by
  subst same
  exact if_pos ⟨rfl, access.address_wire, reached⟩

/-- An access to another register is none to this one. -/
theorem made?_other {access : RegisterAccess} (other : ¬register.Coincides access.register)
    {held : UInt32} (reached : access.register.ReachedUnder held) (word : Option UInt32) :
    made? register ⟨access.wire, held, .ok word⟩ = none :=
  if_neg fun ⟨side, address, reachedToo⟩ ↦
    other ⟨side.symm, address.symm.trans access.address_wire, held, reachedToo, reached⟩

end Attempt

namespace AttemptLog

/-- What is woven of accesses to other registers makes none on the register of the block. -/
theorem Woven.filterMap_made? (isAccess : register.port = .access)
    {accesses left : List RegisterAccess} {attempts : List Attempt}
    (woven : Woven accesses attempts left)
    (others : ∀ access ∈ accesses, ¬register.Coincides access.register) :
    attempts.filterMap (Attempt.made? register) = [] := by
  induction woven with
  | stop accesses => rfl
  | selecting _ ih =>
    rw [List.filterMap_cons_none (Attempt.made?_selecting isAccess _ _ _)]
    exact ih others
  | refused reached _ ih => exact ih others
  | access reached kind _ ih =>
    rw [List.filterMap_cons_none (Attempt.made?_other (others _ List.mem_cons_self) reached _)]
    exact ih fun other member ↦ others other (List.mem_cons_of_mem _ member)

/-- The accesses of a block that are carried out are the first ones, and the others are left. -/
theorem BlockCourse.filterMap_made? (isAccess : register.port = .access)
    (others : ∀ rewrite ∈ resume, ¬register.Coincides rewrite.register) {completed : Nat}
    {accesses left : List RegisterAccess} {attempts : List Attempt} {words : List (Option UInt32)}
    (course : BlockCourse resume completed accesses attempts words left)
    (same : ∀ access ∈ accesses, access.register = register) :
    attempts.filterMap (Attempt.made? register) = (accesses.map RegisterAccess.wire).zip words ∧
      words.length ≤ accesses.length ∧ left = accesses.drop words.length ∧
      words.map Option.isSome =
        (accesses.take words.length).map fun access ↦ access.wire.isRead := by
  have rearming (completed : Nat) :
      ∀ access ∈ Link.rearming resume completed, ¬register.Coincides access.register := by
    cases resume with
    | none => exact List.forall_mem_nil _
    | some rewrite => exact List.forall_mem_singleton.mpr (others rewrite rfl)
  induction course with
  | stop completed accesses => exact ⟨List.zip_nil_right.symm, Nat.zero_le _, rfl, rfl⟩
  | access reached kind _ ih =>
    obtain ⟨made, le, rfl, kinds⟩ :=
      ih fun other member ↦ same other (List.mem_cons_of_mem _ member)
    rw [List.filterMap_cons_some (Attempt.made?_access (same _ List.mem_cons_self) reached _), made]
    exact ⟨rfl, Nat.succ_le_succ le, rfl, by simp [kind, kinds]⟩
  | refused reached => exact ⟨List.zip_nil_right.symm, Nat.zero_le _, rfl, rfl⟩
  | interrupted reached wait between =>
    refine ⟨?_, Nat.zero_le _, rfl, rfl⟩
    rw [List.zip_nil_right]
    exact between.filterMap_made? isAccess (rearming _)
  | waited reached wait between _ ih =>
    obtain ⟨made, rest⟩ := ih same
    refine ⟨?_, rest⟩
    rw [List.filterMap_cons_none rfl, List.filterMap_append,
      between.filterMap_made? isAccess (rearming _), made]
    rfl

/-- What a block transfer made of the target: after writes of SELECT the accesses of the block, and
a rewrite of the resume register after each WAIT. Those that were carried out on the register of the
block are the first ones that were asked for, each of them once; `left` are the others. -/
structure BlockTrace (register : RegisterAddress) (resume : Option BlockResume)
    (accesses : List RegisterAccess) (words : List (Option UInt32)) (left : List RegisterAccess)
    (attempts : List Attempt) : Prop where
  course : ∃ selecting rest, attempts = selecting ++ rest ∧ Woven [] selecting [] ∧
    BlockCourse resume 0 accesses rest words left
  made : attempts.filterMap (Attempt.made? register) = (accesses.map RegisterAccess.wire).zip words
  kinds : words.map Option.isSome =
    (accesses.take words.length).map fun access ↦ access.wire.isRead
  length_le : words.length ≤ accesses.length
  left_eq : left = accesses.drop words.length

/-- The course of a block leads to its trace. -/
private theorem trace_of_course (isAccess : register.port = .access)
    (others : ∀ rewrite ∈ resume, ¬register.Coincides rewrite.register) {data : BlockData}
    {words : List (Option UInt32)} {left : List RegisterAccess} {selecting rest : List Attempt}
    (woven : Woven [] selecting [])
    (course : BlockCourse resume 0 (data.accesses register) rest words left) :
    BlockTrace register resume (data.accesses register) words left (selecting ++ rest) := by
  obtain ⟨made, le, same, kinds⟩ :=
    course.filterMap_made? isAccess others fun _ ↦ BlockData.register_of_mem_accesses
  refine ⟨⟨selecting, rest, rfl, woven, course⟩, ?_, kinds, le, same⟩
  rw [List.filterMap_append, woven.filterMap_made? isAccess (List.forall_mem_nil _), made]
  rfl

private theorem map_some_filterMap {found : List (Option UInt32)}
    (isSome : ∀ word ∈ found, word.isSome = true) : (found.filterMap id).map some = found := by
  induction found with
  | nil => rfl
  | cons word rest ih =>
    obtain ⟨value, rfl⟩ := Option.isSome_iff_exists.mp (isSome word List.mem_cons_self)
    have others := ih fun other member ↦ isSome other (List.mem_cons_of_mem _ member)
    exact congrArg (some value :: ·) others

/-- Every read of a block that is complete gave a word. -/
private theorem BlockTrace.words_of_reads {count : Nat} {found : List (Option UInt32)}
    {attempts : List Attempt}
    (trace : BlockTrace register resume (List.replicate count (.read register)) found [] attempts) :
    (found.filterMap id).map some = found ∧ (found.filterMap id).length = count := by
  have all : found.length = count := by
    have le := trace.length_le
    have complete := List.drop_eq_nil_iff.mp trace.left_eq.symm
    rw [List.length_replicate] at le complete
    omega
  have words := map_some_filterMap fun word member ↦ by
    have kind := List.mem_map_of_mem (f := Option.isSome) member
    rw [trace.kinds, List.take_replicate, List.map_replicate] at kind
    exact List.eq_of_mem_replicate kind
  refine ⟨words, ?_⟩
  rw [← all, ← congrArg List.length words, List.length_map]

section

variable {σ : Type} [Transport σ] {view : σ → AttemptLog} {ready broken : σ → Prop} {link : Link σ}

/-- A block transfer leaves its trace. -/
private theorem block_trace (probe : TruthfulProbe model view ready broken)
    (config : TransferConfig) {calls : List (RegisterAccess × Nat)}
    (queued : Link.Queued σ calls link.batch) (isReady : ready link.transport)
    (agrees : Select.Agrees link.state.selectCache (view link.transport).select)
    (isAccess : register.port = .access)
    (resumable : ∀ rewrite ∈ resume,
      rewrite.register.port = .access ∧ ¬register.Coincides rewrite.register)
    (data : BlockData) :
    (Link.block config register data resume).Yields link
      (fun words next ↦ ∃ found, words = found.filterMap id ∧
        (view link.transport).Grown (view next.transport)
          (BlockTrace register resume (data.accesses register) found []))
      (fun _ next ↦ ∃ found left, (view link.transport).Grown (view next.transport)
        (BlockTrace register resume (data.accesses register) found left)) := by
  have others : ∀ rewrite ∈ resume, ¬register.Coincides rewrite.register :=
    fun rewrite member ↦ (resumable rewrite member).2
  have nothing : ∃ found left, (view link.transport).Grown (view link.transport)
      (BlockTrace register resume (data.accesses register) found left) :=
    ⟨_, _, [], (List.append_nil _).symm, trace_of_course isAccess others (.stop []) (.stop 0 _)⟩
  unfold Link.block
  rw [Action.yields_bind, Link.yields_checkReady]
  refine ⟨fun _ ↦ nothing, fun _ _ ↦ nothing, fun _ _ ↦ ?_⟩
  rw [Action.yields_bind, Link.yields_checkNoneQueued]
  refine ⟨fun _ ↦ nothing, fun empty ↦ ?_⟩
  rw [Action.yields_bind]
  have free : Link.Free select view ready link := ⟨isReady, queued.tidy empty, agrees⟩
  refine (select_woven probe config free register).imp ?_ ?_
  · rintro _ middle ⟨⟨did, reached⟩, selecting, keptFirst, woven⟩
    rw [Action.yields_bind, Link.yields_onProbe]
    have rewritable : ∀ rewrite ∈ resume, rewrite.register.port = .access :=
      fun rewrite member ↦ (resumable rewrite member).1
    refine (sendBlock_course probe config isAccess rewritable (Nat.min_le_right _ _) data 0 0
      did.free reached).imp ?_ ?_
    · rintro words next ⟨found, rfl, rest, kept, course⟩
      refine ⟨found, rfl, selecting ++ rest, ?_, trace_of_course isAccess others woven course⟩
      rw [kept, keptFirst, List.append_assoc]
    · rintro error next ⟨found, left, rest, kept, course⟩
      refine ⟨found, left, selecting ++ rest, ?_, trace_of_course isAccess others woven course⟩
      rw [kept, keptFirst, List.append_assoc]
  · rintro error next ⟨selecting, kept, woven⟩
    refine ⟨[], data.accesses register, selecting, kept, ?_⟩
    rw [← List.append_nil selecting]
    exact trace_of_course isAccess others woven (.stop 0 _)

/-- Block transfers neither lose nor repeat a word. What they carry out on their register are the
accesses that were asked for, from the first one on and each once, while SELECT names it. Besides
these they write SELECT and, after each WAIT, rewrite the resume register once for the words done so
far. A transfer that succeeds made all accesses, and a read gives exactly the words that came
back. -/
theorem block_words_once (probe : TruthfulProbe model view ready broken)
    (config : TransferConfig) {calls : List (RegisterAccess × Nat)}
    (queued : Link.Queued σ calls link.batch) (isReady : ready link.transport)
    (agrees : Select.Agrees link.state.selectCache (view link.transport).select)
    (isAccess : register.port = .access)
    (resumable : ∀ rewrite ∈ resume,
      rewrite.register.port = .access ∧ ¬register.Coincides rewrite.register) :
    (∀ count, (Link.readBlock config register count resume).Yields link
      (fun words next ↦ words.length = count ∧
        (view link.transport).Grown (view next.transport)
          (BlockTrace register resume (List.replicate count (.read register)) (words.map some) []))
      (fun _ next ↦ ∃ found left, (view link.transport).Grown (view next.transport)
        (BlockTrace register resume (List.replicate count (.read register)) found left))) ∧
    ∀ words, (Link.writeBlock config register words resume).Yields link
      (fun _ next ↦ ∃ found, (view link.transport).Grown (view next.transport)
        (BlockTrace register resume (words.map (.write register)) found []))
      (fun _ next ↦ ∃ found left, (view link.transport).Grown (view next.transport)
        (BlockTrace register resume (words.map (.write register)) found left)) := by
  constructor
  · intro count
    refine (block_trace probe config queued isReady agrees isAccess resumable (.read count)).imp ?_
      fun _ _ stopped ↦ stopped
    rintro _ next ⟨found, rfl, attempts, kept, trace⟩
    obtain ⟨words, length⟩ := trace.words_of_reads
    rw [words]
    exact ⟨length, attempts, kept, trace⟩
  · intro words
    unfold Link.writeBlock
    rw [Action.yields_bind]
    exact (block_trace probe config queued isReady agrees isAccess resumable (.write words)).imp
      (fun _ _ ⟨found, _, grown⟩ ↦ ⟨found, grown⟩) fun _ _ stopped ↦ stopped

end

/-- A link to a target at which the second word of a block has to wait once. -/
private def waiting : Link Watched where
  transport := { simulator := { target := { answers := [.ok, .ok, .wait] } } }
  state := { status := .connected .swd }

/-- Three words are read through the data register of a memory access port. The address register is
rewritten for the second one after it had to wait. -/
theorem block_words_once_waiting :
    Link.Queued Watched [] waiting.batch ∧ Watched.Idle waiting.transport ∧
      ∃ words next, (Link.readBlock {} (.access 0 0x0C) 3 (some ⟨.access 0 0x04, 0x1000⟩)).outcome
          waiting = (.ok words, next) ∧ words.length = 3 ∧
        BlockTrace (.access 0 0x0C) (some ⟨.access 0 0x04, 0x1000⟩)
          (List.replicate 3 (.read (.access 0 0x0C))) (words.map some) [] next.transport.log ∧
        next.transport.log.length = 6 := by
  have queued : Link.Queued Watched [] waiting.batch := .empty
  have idle : Watched.Idle waiting.transport := ⟨rfl, rfl, rfl⟩
  have resumable : ∀ rewrite ∈ some (BlockResume.mk (.access 0 0x04) 0x1000),
      rewrite.register.port = .access ∧
        ¬RegisterAddress.Coincides (.access 0 0x0C) rewrite.register := by
    rintro _ ⟨⟩
    exact ⟨rfl, fun coincides ↦
      absurd (RegisterAddress.eq_of_coincides (by decide) (by decide) coincides).2 (by decide)⟩
  have once := (block_words_once Watched.truthful {} queued idle (.none _) rfl resumable).1 3
  refine ⟨queued, idle, ?_⟩
  have tried : ((Link.readBlock {} (.access 0 0x0C) 3 (some ⟨.access 0 0x04, 0x1000⟩)).outcome
      waiting).1.isOk = true ∧ ((Link.readBlock {} (.access 0 0x0C) 3
        (some ⟨.access 0 0x04, 0x1000⟩)).outcome waiting).2.transport.log.length = 6 := by
    decide +kernel
  cases outcome : (Link.readBlock {} (.access 0 0x0C) 3
    (some ⟨.access 0 0x04, 0x1000⟩)).outcome waiting with
  | mk result next =>
    rw [outcome] at tried
    cases result with
    | error error => nomatch tried.1
    | ok words =>
      obtain ⟨length, attempts, kept, trace⟩ := once.of_ok outcome
      obtain rfl : attempts = next.transport.log := kept.symm
      exact ⟨words, next, rfl, length, trace, tried.2⟩

end AttemptLog

end DebugProbe
