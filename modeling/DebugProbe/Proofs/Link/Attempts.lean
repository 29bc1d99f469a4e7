import DebugProbe.Proofs.Link.Tries

/-!
# Attempts at accesses

A log of attempts keeps every access that was put to a target, refused ones included, with the value
that SELECT had just then. An access over a link is tried until it is carried out, each time while
SELECT names its register, and only writes of SELECT are tried besides.
-/

namespace DebugProbe

variable {σ : Type}

/-- An attempt at an access: what SELECT held, and the word that came back or the status byte of
the refusal. -/
structure Attempt where
  transfer : Transfer
  held : UInt32
  result : Except UInt8 (Option UInt32)

/-- An access to an access port was carried out. -/
def Attempt.isMade (attempt : Attempt) : Bool :=
  attempt.transfer.port == .access && attempt.result.isOk

namespace Attempt

@[simp] theorem isMade_error (transfer : Transfer) (held : UInt32) (code : UInt8) :
    isMade ⟨transfer, held, .error code⟩ = false := Bool.and_false _

@[simp] theorem isMade_selecting (value : Select) (held : UInt32)
    (result : Except UInt8 (Option UInt32)) :
    isMade ⟨(BatchEntry.selecting value).wire, held, result⟩ = false := rfl

theorem isMade_ok {access : RegisterAccess} (side : access.register.port = .access)
    (held : UInt32) (word : Option UInt32) : isMade ⟨access.wire, held, .ok word⟩ = true :=
  (Bool.and_true _).trans (beq_iff_eq.mpr side)

end Attempt

/-- What SELECT holds, and every attempt at an access, oldest first. -/
structure AttemptLog where
  select : UInt32 := 0
  log : List Attempt := []

namespace AttemptLog

/-- Attempts are kept, and SELECT changes only by a write at its address that is carried out.
Exchanges may break. -/
def model : TargetModel AttemptLog where
  completes transfer word before after :=
    after = ⟨transfer.selectAfter before.select,
      before.log ++ [⟨transfer, before.select, .ok word⟩]⟩
  refuses transfer code before after :=
    after = ⟨before.select, before.log ++ [⟨transfer, before.select, .error code⟩]⟩
  breaks := True

theorem tracks : model.TracksSelect select where
  completes step := by rw [step]
  refuses step := by rw [step]

/-- Accesses are tried one after the other, each while SELECT names its register and until it is
carried out, with attempts at writes of SELECT between them; `left` are those that were not carried
out. -/
inductive Woven : List RegisterAccess → List Attempt → (left : List RegisterAccess) → Prop
  | stop (accesses : List RegisterAccess) : Woven accesses [] accesses
  | selecting {value : Select} {held : UInt32} {result : Except UInt8 (Option UInt32)}
      {accesses left : List RegisterAccess} {attempts : List Attempt}
      (later : Woven accesses attempts left) :
      Woven accesses (⟨(BatchEntry.selecting value).wire, held, result⟩ :: attempts) left
  | refused {access : RegisterAccess} {held : UInt32} {code : UInt8}
      {rest left : List RegisterAccess} {attempts : List Attempt}
      (reached : access.register.ReachedUnder held) (later : Woven (access :: rest) attempts left) :
      Woven (access :: rest) (⟨access.wire, held, .error code⟩ :: attempts) left
  | access {access : RegisterAccess} {held : UInt32} {word : Option UInt32}
      {rest left : List RegisterAccess} {attempts : List Attempt}
      (reached : access.register.ReachedUnder held) (kind : word.isSome = access.wire.isRead)
      (later : Woven rest attempts left) :
      Woven (access :: rest) (⟨access.wire, held, .ok word⟩ :: attempts) left

/-- Accesses that are tried after others were carried out are tried with them. -/
theorem Woven.append {first second left : List RegisterAccess} {attempts later : List Attempt}
    (woven : Woven first attempts []) (more : Woven second later left) :
    Woven (first ++ second) (attempts ++ later) left := by
  generalize done : ([] : List RegisterAccess) = nothing at woven
  induction woven with
  | stop accesses =>
    rw [← done]
    exact more
  | selecting _ ih => exact .selecting (ih done)
  | refused reached _ ih => exact .refused reached (ih done)
  | access reached kind _ ih => exact .access reached kind (ih done)

/-- Of nothing there is nothing left. -/
theorem Woven.of_nil {left : List RegisterAccess} {attempts : List Attempt}
    (woven : Woven [] attempts left) : Woven [] attempts [] := by
  generalize shape : ([] : List RegisterAccess) = accesses at woven
  induction woven with
  | stop accesses => exact shape ▸ .stop []
  | selecting _ ih => exact .selecting (ih shape)
  | refused reached _ ih => nomatch shape
  | access reached kind _ ih => nomatch shape

/-- The host's own writes of SELECT count for nothing. -/
theorem Woven.of_selecting {value : Select} {left : List RegisterAccess} {attempts : List Attempt}
    (woven : Woven [.write (.debug DebugPort.selectAddress) value.word] attempts left) :
    Woven [] attempts [] := by
  have same : (RegisterAccess.write (.debug DebugPort.selectAddress) value.word).wire =
      (BatchEntry.selecting value).wire :=
    congrArg (Transfer.mk .debug · (some value.word)) (Transfer.and_wire _)
  generalize shape : [RegisterAccess.write (.debug DebugPort.selectAddress) value.word] =
    accesses at woven
  induction woven with
  | stop accesses => exact .stop []
  | selecting _ ih => exact .selecting (ih shape)
  | refused reached _ ih =>
    obtain ⟨rfl, rfl⟩ := List.cons.inj shape
    rw [same]
    exact .selecting (ih rfl)
  | access reached kind later ih =>
    obtain ⟨rfl, rfl⟩ := List.cons.inj shape
    rw [same]
    exact .selecting (later.of_nil)

/-- The attempts by which a log has grown are of some kind. -/
def Grown (before after : AttemptLog) (told : List Attempt → Prop) : Prop :=
  ∃ attempts, after.log = before.log ++ attempts ∧ told attempts

variable {before middle after : AttemptLog} {told : List Attempt → Prop}

/-- One more attempt in front. -/
theorem Grown.cons {attempt : Attempt} (first : middle.log = before.log ++ [attempt])
    (grown : Grown middle after fun attempts ↦ told (attempt :: attempts)) :
    Grown before after told := by
  obtain ⟨attempts, kept, told⟩ := grown
  refine ⟨attempt :: attempts, ?_, told⟩
  rw [kept, first, List.append_assoc]
  rfl

/-- An access that SELECT allows for is tried under it. -/
private theorem woven_of_tries {access : RegisterAccess} {left : List Transfer}
    (tries : model.Tries [access.wire] before left after)
    (reached : access.register.ReachedUnder before.select) :
    ∃ unmade, Grown before after fun attempts ↦ Woven [access] attempts unmade := by
  generalize shape : [access.wire] = transfers at tries
  induction tries with
  | stop transfers state => exact ⟨_, [], (List.append_nil _).symm, .stop _⟩
  | refused step later ih =>
    obtain ⟨rfl, rfl⟩ := List.cons.inj shape
    obtain ⟨unmade, grown⟩ := ih (by rw [step]; exact reached) rfl
    obtain ⟨attempts, kept, woven⟩ := grown
    exact ⟨unmade, .cons (congrArg log step) ⟨attempts, kept, .refused reached woven⟩⟩
  | completed kind step later ih =>
    obtain ⟨rfl, rfl⟩ := List.cons.inj shape
    cases later with
    | stop transfers state => exact ⟨[], [_], congrArg log step, .access reached kind (.stop _)⟩

/-- A write of SELECT is tried in front of the access that needs it. -/
private theorem woven_of_tries_selecting {needed : Select} {access : RegisterAccess}
    {left : List Transfer}
    (tries : model.Tries [(BatchEntry.selecting needed).wire, access.wire] before left after)
    (reached : access.register.ReachedUnder needed.word) :
    ∃ unmade, Grown before after fun attempts ↦ Woven [access] attempts unmade := by
  generalize shape : [(BatchEntry.selecting needed).wire, access.wire] = transfers at tries
  induction tries with
  | stop transfers state => exact ⟨_, [], (List.append_nil _).symm, .stop _⟩
  | refused step later ih =>
    obtain ⟨rfl, rfl⟩ := List.cons.inj shape
    obtain ⟨unmade, attempts, kept, woven⟩ := ih rfl
    exact ⟨unmade, .cons (congrArg log step) ⟨attempts, kept, .selecting woven⟩⟩
  | @completed transfer rest left state next last word kind step later ih =>
    obtain ⟨rfl, rfl⟩ := List.cons.inj shape
    have written : next.select = needed.word :=
      (tracks.completes step).trans (BatchEntry.remembered_selecting needed _)
    rw [← written] at reached
    obtain ⟨unmade, attempts, kept, woven⟩ := woven_of_tries later reached
    exact ⟨unmade, .cons (congrArg log step) ⟨attempts, kept, .selecting woven⟩⟩

/-- The entries that an access needs try this access while SELECT names its register. -/
theorem woven_of_tries_entriesFor {held : Option Select} {access : RegisterAccess}
    {left : List Transfer} (agrees : Select.Agrees held before.select)
    (tries : model.Tries ((Batch.entriesFor held access 0).map BatchEntry.wire) before left after) :
    ∃ unmade, Grown before after fun attempts ↦ Woven [access] attempts unmade := by
  rcases Batch.entriesFor_cases held access 0 with ⟨enough, shape⟩ | ⟨needed, needs, shape⟩
  · rw [shape] at tries
    exact woven_of_tries tries (RegisterAddress.reachedUnder_of_none enough agrees)
  · rw [shape] at tries
    exact woven_of_tries_selecting tries (RegisterAddress.reachedUnder_of_some needs)

/-- Of the accesses that are tried, those are made that are not left. -/
private theorem Woven.countP {accesses left : List RegisterAccess} {attempts : List Attempt}
    (woven : Woven accesses attempts left)
    (isAccess : ∀ access ∈ accesses, access.register.port = .access) :
    attempts.countP Attempt.isMade + left.length = accesses.length := by
  induction woven with
  | stop accesses => exact Nat.zero_add _
  | selecting _ ih => simpa using ih isAccess
  | refused reached _ ih => simpa using ih isAccess
  | @access access held word rest left attempts reached kind _ ih =>
    have others := ih fun other member ↦ isAccess other (List.mem_cons_of_mem _ member)
    have made := Attempt.isMade_ok (isAccess access List.mem_cons_self) held word
    rw [List.countP_cons_of_pos made, List.length_cons, ← others]
    omega

/-- Accesses that are performed are made. -/
private theorem countP_of_performed {accesses : List RegisterAccess} {words : List (Option UInt32)}
    (performed : model.Performed select accesses before words after)
    (isAccess : ∀ access ∈ accesses, access.register.port = .access) :
    after.log.countP Attempt.isMade = before.log.countP Attempt.isMade + accesses.length := by
  induction performed with
  | nil state => rfl
  | refused step _ ih =>
    rw [ih isAccess, step]
    simp
  | selected step _ ih =>
    rw [ih isAccess, step]
    simp
  | @access access rest state next last word data reached kind step _ ih =>
    have made := Attempt.isMade_ok (isAccess access List.mem_cons_self) state.select word
    rw [ih fun other member ↦ isAccess other (List.mem_cons_of_mem _ member), step,
      List.countP_append, List.countP_singleton, made, List.length_cons, if_pos rfl]
    omega

section

variable [Transport σ] {view : σ → AttemptLog} {ready broken : σ → Prop} {link : Link σ}

/-- A single access is tried until it is carried out, or given up. -/
theorem run_woven (probe : TruthfulProbe model view ready broken) (config : TransferConfig)
    (free : Link.Free select view ready link) {access : RegisterAccess}
    (isAccess : access.register.port = .access) :
    (Link.run config access).Yields link
      (fun word next ↦ Link.Did model select view ready link [access] [word] next ∧
        (view link.transport).Grown (view next.transport) fun attempts ↦ Woven [access] attempts [])
      (fun _ next ↦ ∃ left, (view link.transport).Grown (view next.transport) fun attempts ↦
        Woven [access] attempts left) := by
  have plain : access.Plain := RegisterAccess.plain_of_access isAccess
  have tried := probe.run_tries config free.isReady free.batch access
  refine ((probe.run tracks config free plain).and tried).imp ?_ ?_
  · rintro word next ⟨⟨did, -⟩, left, tries⟩
    obtain ⟨unmade, attempts, kept, woven⟩ := woven_of_tries_entriesFor free.agrees tries
    have single : ∀ other ∈ [access], other.register.port = .access := by
      simpa using isAccess
    have made := countP_of_performed did.performed single
    have count := woven.countP single
    rw [kept, List.countP_append] at made
    obtain rfl : unmade = [] := List.eq_nil_of_length_eq_zero (by omega)
    exact ⟨did, attempts, kept, woven⟩
  · rintro error next ⟨-, left, tries⟩
    exact woven_of_tries_entriesFor free.agrees tries

end

end AttemptLog

end DebugProbe
