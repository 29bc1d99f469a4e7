import DebugProbe.Command.Transfer

/-!
# Models of targets

What is observed of a target is a state that changes when the target carries an access out, and
perhaps when it refuses one. A model says which changes are possible; it leaves open which accesses
are refused and what a read gives, so that one statement covers every way of answering.
-/

namespace DebugProbe

/-- How the observed state of a target can change. -/
structure TargetModel (τ : Type) where
  /-- The target carries an access out, with the word that a read gives. -/
  completes : Transfer → Option UInt32 → τ → τ → Prop
  /-- The target refuses an access, with the status byte of its answer. -/
  refuses : Transfer → UInt8 → τ → τ → Prop
  /-- Whether exchanges with the probe in front of the target may break. -/
  breaks : Prop

/-- The entry as it reads in a frame, where only two bits of the address are left. -/
def Transfer.onWire (transfer : Transfer) : Transfer :=
  { transfer with address := transfer.address &&& 0x0C }

/-- An access that a target carried out, with the word that a read gave. -/
abbrev AccessEvent := Transfer × Option UInt32

namespace TargetModel

variable {τ : Type} (model : TargetModel τ)

/-- A probe puts accesses to the target one after the other, up to the first one that is refused:
the words of those that completed and the status byte of the last answer. -/
inductive Answers : List Transfer → τ → List (Option UInt32) → UInt8 → τ → Prop
  | all {state : τ} {code : UInt8} (success : (TransferStatus.ofByte code).isOk = true) :
      Answers [] state [] code state
  | refused {transfer : Transfer} {rest : List Transfer} {state next : τ} {code : UInt8}
      (failure : (TransferStatus.ofByte code).isOk = false)
      (step : model.refuses transfer code state next) :
      Answers (transfer :: rest) state [] code next
  | completed {transfer : Transfer} {rest : List Transfer} {state next last : τ}
      {word : Option UInt32} {data : List (Option UInt32)} {code : UInt8}
      (kind : word.isSome = transfer.isRead) (step : model.completes transfer word state next)
      (later : Answers rest next data code last) :
      Answers (transfer :: rest) state (word :: data) code last

/-- Accesses are carried out in order, each once, with refusals before, between and after them. -/
inductive Carries : List Transfer → τ → List (Option UInt32) → τ → Prop
  | nil (state : τ) : Carries [] state [] state
  | refused {transfer : Transfer} {transfers : List Transfer} {state next last : τ}
      {data : List (Option UInt32)} {code : UInt8} (step : model.refuses transfer code state next)
      (later : Carries transfers next data last) : Carries transfers state data last
  | completed {transfer : Transfer} {rest : List Transfer} {state next last : τ}
      {word : Option UInt32} {data : List (Option UInt32)}
      (kind : word.isSome = transfer.isRead) (step : model.completes transfer word state next)
      (later : Carries rest next data last) :
      Carries (transfer :: rest) state (word :: data) last

/-- An exchange broke off: some of the accesses, from the first one on, were put to the target. -/
def Interrupted (transfers : List Transfer) (state next : τ) : Prop :=
  ∃ part data code, part <+: transfers ∧ model.Answers part state data code next

variable {model}

/-- No more accesses complete than were asked for. -/
theorem Answers.length_le {transfers : List Transfer} {state last : τ}
    {data : List (Option UInt32)} {code : UInt8}
    (answers : model.Answers transfers state data code last) :
    data.length ≤ transfers.length := by
  induction answers with
  | all success => exact Nat.le_refl _
  | refused failure step => exact Nat.zero_le _
  | completed kind step later ih => exact Nat.succ_le_succ ih

/-- The last answer is OK exactly when every access completed. -/
theorem Answers.isOk_iff {transfers : List Transfer} {state last : τ}
    {data : List (Option UInt32)} {code : UInt8}
    (answers : model.Answers transfers state data code last) :
    (TransferStatus.ofByte code).isOk = true ↔ data.length = transfers.length := by
  induction answers with
  | all success => simp [success]
  | refused failure step => simp [failure]
  | completed kind step later ih => simp [ih]

/-- Exactly the reads among the completed accesses give words. -/
theorem Answers.isSome_words {transfers : List Transfer} {state last : τ}
    {data : List (Option UInt32)} {code : UInt8}
    (answers : model.Answers transfers state data code last) :
    data.map Option.isSome = (transfers.take data.length).map Transfer.isRead := by
  induction answers with
  | all success => rfl
  | refused failure step => rfl
  | completed kind step later ih => simp [kind, ih]

/-- The accesses that a frame completed are carried out. -/
theorem Answers.carries {transfers : List Transfer} {state last : τ}
    {data : List (Option UInt32)} {code : UInt8}
    (answers : model.Answers transfers state data code last) :
    model.Carries (transfers.take data.length) state data last := by
  induction answers with
  | all success => exact .nil _
  | refused failure step => exact .refused step (.nil _)
  | completed kind step later ih => exact .completed kind step ih

/-- As many words come back as accesses are carried out. -/
theorem Carries.length_words {transfers : List Transfer} {state last : τ}
    {data : List (Option UInt32)} (carries : model.Carries transfers state data last) :
    data.length = transfers.length := by
  induction carries with
  | nil state => rfl
  | refused step later ih => exact ih
  | completed kind step later ih => exact congrArg Nat.succ ih

/-- Exactly the reads that are carried out give words. -/
theorem Carries.isSome_words {transfers : List Transfer} {state last : τ}
    {data : List (Option UInt32)} (carries : model.Carries transfers state data last) :
    data.map Option.isSome = transfers.map Transfer.isRead := by
  induction carries with
  | nil state => rfl
  | refused step later ih => exact ih
  | completed kind step later ih => rw [List.map_cons, List.map_cons, kind, ih]

/-- What is carried out in two goes is carried out in one. -/
theorem Carries.append {first second : List Transfer} {state middle last : τ}
    {data data' : List (Option UInt32)} (carries : model.Carries first state data middle)
    (later : model.Carries second middle data' last) :
    model.Carries (first ++ second) state (data ++ data') last := by
  induction carries with
  | nil state => exact later
  | refused step _ ih => exact .refused step (ih later)
  | completed kind step _ ih => exact .completed kind step (ih later)

/-- Nothing at all may have reached the target. -/
theorem Interrupted.refl (transfers : List Transfer) (state : τ) :
    model.Interrupted transfers state state :=
  ⟨[], [], 0x01, List.nil_prefix, .all rfl⟩

/-- What an interrupted exchange carried out comes first among the accesses. -/
theorem Interrupted.carries {transfers : List Transfer} {state next : τ}
    (interrupted : model.Interrupted transfers state next) :
    ∃ data, data.length ≤ transfers.length ∧
      model.Carries (transfers.take data.length) state data next := by
  obtain ⟨part, data, code, before, answers⟩ := interrupted
  refine ⟨data, Nat.le_trans answers.length_le before.length_le, ?_⟩
  have same : transfers.take data.length = part.take data.length := by
    rw [List.prefix_iff_eq_take.mp before, List.take_take,
      Nat.min_eq_left answers.length_le]
  rw [same]
  exact answers.carries

/-- A target of which nothing is known but that it keeps a record of what it carried out. -/
def recording : TargetModel (List AccessEvent) where
  completes transfer word log next := next = log ++ [(transfer, word)]
  refuses _ _ log next := next = log
  breaks := True

/-- What is carried out is what the record grows by. -/
theorem Carries.recorded {transfers : List Transfer} {log next : List AccessEvent}
    {data : List (Option UInt32)} (carries : recording.Carries transfers log data next) :
    next = log ++ transfers.zip data := by
  induction carries with
  | nil log => rw [List.zip_nil_left, List.append_nil]
  | refused step later ih => rw [ih, step]
  | completed kind step later ih =>
    rw [ih, step, List.zip_cons_cons, List.append_assoc]
    rfl

end TargetModel

end DebugProbe
