import DebugProbe.Text.Scan

/-!
# What scanners give

A property of all values that a scanner gives, whatever the text, with a rule for each way of
putting scanners together.
-/

namespace DebugProbe

namespace Scan

variable {α β : Type} {scan : Scan α} {gives : α → Prop}

/-- Every value that the scanner takes off a text has the property. -/
def Gives (scan : Scan α) (gives : α → Prop) : Prop :=
  ∀ ⦃text value rest⦄, scan text = some (value, rest) → gives value

theorem gives_true (scan : Scan α) : Gives scan fun _ ↦ True := fun _ _ _ _ ↦ trivial

theorem Gives.imp {others : α → Prop} (each : Gives scan gives)
    (leads : ∀ value, gives value → others value) : Gives scan others :=
  fun _ _ _ taken ↦ leads _ (each taken)

theorem gives_pure {value : α} (holds : gives value) : Gives (pure value : Scan α) gives := by
  intro text found rest taken
  obtain ⟨rfl, -⟩ := Prod.mk.inj (Option.some.inj taken)
  exact holds

theorem gives_failure : Gives (failure : Scan α) gives := fun _ _ _ taken ↦ nomatch taken

theorem Gives.bind {next : α → Scan β} {later : β → Prop} (first : Gives scan gives)
    (rest : ∀ value, gives value → Gives (next value) later) : Gives (scan >>= next) later := by
  intro text value left taken
  cases outcome : scan text with
  | none =>
    have failed : (scan >>= next) text = none := by
      show (scan text).bind _ = none
      rw [outcome]
      rfl
    rw [failed] at taken
    nomatch taken
  | some found =>
    have goes : (scan >>= next) text = next found.1 found.2 := by
      show (scan text).bind _ = _
      rw [outcome]
      rfl
    exact rest found.1 (first outcome) (goes ▸ taken)

/-- What comes after a scanner may have the property whatever that scanner gives. -/
theorem gives_bind {next : α → Scan β} {later : β → Prop}
    (rest : ∀ value, Gives (next value) later) : Gives (scan >>= next) later :=
  (gives_true scan).bind fun value _ ↦ rest value

theorem Gives.map {f : α → β} {later : β → Prop} (each : Gives scan fun value ↦ later (f value)) :
    Gives (f <$> scan) later := by
  rw [← bind_pure_comp]
  exact each.bind fun value holds ↦ gives_pure holds

theorem Gives.orElse {other : Scan α} (first : Gives scan gives) (second : Gives other gives) :
    Gives (scan <|> other) gives := by
  intro text value rest taken
  have either : (scan text <|> other text) = some (value, rest) := taken
  cases outcome : scan text with
  | none =>
    rw [outcome] at either
    exact second either
  | some found =>
    rw [outcome] at either
    exact first (outcome.trans either)

theorem Gives.optional (each : Gives scan gives) :
    Gives (optional scan) fun found ↦ ∀ value ∈ found, gives value := by
  apply Gives.orElse
  · apply Gives.map
    simpa using each
  · exact gives_pure (by simp)

theorem Gives.upTo (each : Gives scan gives) (count : Nat) :
    Gives (upTo scan count) fun found ↦ ∀ value ∈ found, gives value := by
  induction count with
  | zero => exact gives_pure (List.forall_mem_nil _)
  | succ count ih =>
    rw [Scan.upTo]
    refine .orElse (each.bind fun first holds ↦ ih.bind fun rest others ↦ ?_)
      (gives_pure (List.forall_mem_nil _))
    exact gives_pure (List.forall_mem_cons.mpr ⟨holds, others⟩)

theorem Gives.many (each : Gives scan gives) :
    Gives (many scan) fun found ↦ ∀ value ∈ found, gives value :=
  gives_bind fun _ ↦ each.upTo _

theorem Gives.separated (each : Gives scan gives) (separator : Scan β) :
    Gives (separated scan separator) fun found ↦ ∀ value ∈ found, gives value := by
  unfold Scan.separated
  refine each.bind fun first holds ↦ ?_
  refine (Gives.many (gives_bind fun _ ↦ each)).bind fun rest others ↦ ?_
  exact gives_pure (List.forall_mem_cons.mpr ⟨holds, others⟩)

theorem Gives.whole? (each : Gives scan gives) {text : List Char} {value : α}
    (found : whole? scan text = some value) : gives value := by
  unfold Scan.whole? at found
  split at found
  · next taken =>
    obtain rfl := Option.some.inj found
    exact each taken
  · nomatch found

end Scan

end DebugProbe
