import DebugProbe.Text.Hex
import Mathlib.Data.List.Forall2
import Mathlib.Data.List.Induction
import Mathlib.Data.Nat.Digits.Defs
import Mathlib.Tactic.IntervalCases

/-!
# Numerals

What number a row of digits stands for, told by the digits of the number and without reading them.
Reading accepts exactly the numerals of a base, and what is printed is a numeral, whatever width it
is filled up to.
-/

namespace DebugProbe

namespace Hex

/-- The character is a hexadecimal digit, in lower or upper case, and has a value. -/
def IsDigit (value : Nat) (c : Char) : Prop :=
  "0123456789abcdef".toList[value]? = some c ∨ "0123456789ABCDEF".toList[value]? = some c

/-- The characters, most significant first, are digits of a base that make up a number. -/
def Numeral (base : Nat) (text : List Char) (value : Nat) : Prop :=
  ∃ digits, List.Forall₂ IsDigit digits text.reverse ∧ (∀ digit ∈ digits, digit < base) ∧
    value = Nat.ofDigits base digits

/-- Reading a digit finds exactly its value. -/
theorem digitValue?_eq_some_iff {c : Char} {value : Nat} :
    digitValue? c = some value ↔ IsDigit value c := by
  constructor
  · intro read
    have code : c = Char.ofNat c.toNat := (Char.ofNat_toNat c).symm
    -- A digit lies in one of three ranges of characters.
    have ranges : (48 ≤ c.toNat ∧ c.toNat ≤ 57 ∧ value = c.toNat - 48) ∨
        (97 ≤ c.toNat ∧ c.toNat ≤ 102 ∧ value = c.toNat - 87) ∨
        (65 ≤ c.toNat ∧ c.toNat ≤ 70 ∧ value = c.toNat - 55) := by
      unfold digitValue? at read
      split at read
      · next range => exact .inl ⟨range.1, range.2, (Option.some.inj read).symm⟩
      · split at read
        · next range => exact .inr (.inl ⟨range.1, range.2, (Option.some.inj read).symm⟩)
        · split at read
          · next range => exact .inr (.inr ⟨range.1, range.2, (Option.some.inj read).symm⟩)
          · nomatch read
    generalize c.toNat = n at code ranges
    subst code
    rcases ranges with ⟨low, high, rfl⟩ | ⟨low, high, rfl⟩ | ⟨low, high, rfl⟩
    · exact .inl (by interval_cases n <;> rfl)
    · exact .inl (by interval_cases n <;> rfl)
    · exact .inr (by interval_cases n <;> rfl)
  · intro isDigit
    have few : value < 16 := by
      rcases isDigit with lower | upper
      · exact (List.getElem?_eq_some_iff.mp lower).1
      · exact (List.getElem?_eq_some_iff.mp upper).1
    rcases isDigit with lower | upper
    · interval_cases value <;> cases lower <;> rfl
    · interval_cases value <;> cases upper <;> rfl

theorem isDigit_digit {value : Nat} (few : value < 16) : IsDigit value (digit value) :=
  .inl (by interval_cases value <;> rfl)

section Numeral

variable {base value : Nat} {text : List Char}

@[simp] theorem numeral_nil_iff : Numeral base [] value ↔ value = 0 := by
  constructor
  · rintro ⟨digits, same, -, rfl⟩
    rw [List.forall₂_nil_right_iff.mp same, Nat.ofDigits_nil]
  · rintro rfl
    exact ⟨[], .nil, List.forall_mem_nil _, rfl⟩

/-- One more digit makes a number of the base larger by the base, and adds its value. -/
theorem numeral_concat_iff {c : Char} :
    Numeral base (text ++ [c]) value ↔
      ∃ front digit, Numeral base text front ∧ IsDigit digit c ∧ digit < base ∧
        value = base * front + digit := by
  constructor
  · rintro ⟨digits, same, small, rfl⟩
    rw [List.reverse_concat] at same
    obtain ⟨digit, front, isDigit, rest, rfl⟩ := List.forall₂_cons_right_iff.mp same
    refine ⟨_, digit, ⟨front, rest, fun d member ↦ small d (List.mem_cons_of_mem _ member), rfl⟩,
      isDigit, small digit List.mem_cons_self, ?_⟩
    rw [Nat.ofDigits_cons, Nat.add_comm]
  · rintro ⟨_, digit, ⟨front, rest, small, rfl⟩, isDigit, isSmall, rfl⟩
    refine ⟨digit :: front, ?_, List.forall_mem_cons.mpr ⟨isSmall, small⟩, ?_⟩
    · rw [List.reverse_concat]
      exact .cons isDigit rest
    · rw [Nat.ofDigits_cons, Nat.add_comm]

/-- Nothing but digits stands in a numeral. -/
theorem Numeral.isDigit (numeral : Numeral base text value) {c : Char} (member : c ∈ text) :
    ∃ digit, IsDigit digit c := by
  induction text using List.reverseRecOn generalizing value with
  | nil => nomatch member
  | append_singleton text last ih =>
    obtain ⟨front, digit, isFront, isDigit, -, -⟩ := numeral_concat_iff.mp numeral
    rcases List.mem_append.mp member with early | late
    · exact ih isFront early
    · exact ⟨digit, List.mem_singleton.mp late ▸ isDigit⟩

/-- Zeros in front do not change a number. -/
theorem Numeral.zeros (numeral : Numeral base text value) (positive : 0 < base) (count : Nat) :
    Numeral base (List.replicate count '0' ++ text) value := by
  obtain ⟨digits, same, small, rfl⟩ := numeral
  refine ⟨digits ++ List.replicate count 0, ?_, ?_, ?_⟩
  · rw [List.reverse_append, List.reverse_replicate]
    exact List.rel_append same (by induction count <;> simp_all [List.replicate_succ, IsDigit])
  · intro digit member
    rcases List.mem_append.mp member with front | zero
    · exact small digit front
    · rw [List.eq_of_mem_replicate zero]
      exact positive
  · exact (Nat.ofDigits_append_replicate_zero digits).symm

/-- Reading accepts exactly the numerals of the base. -/
theorem valueOf?_eq_some_iff : valueOf? base text = some value ↔ Numeral base text value := by
  induction text using List.reverseRecOn generalizing value with
  | nil =>
    rw [numeral_nil_iff]
    exact ⟨fun read ↦ (Option.some.inj read).symm, fun zero ↦ congrArg some zero.symm⟩
  | append_singleton text c ih =>
    have step : valueOf? base (text ++ [c]) = (do
        let front ← valueOf? base text
        let d ← digitValue? c
        if d < base then some (base * front + d) else none) := by
      simp [valueOf?, List.foldlM_append]
    rw [step, numeral_concat_iff]
    simp only [Option.bind_eq_bind, Option.bind_eq_some_iff, Option.ite_none_right_eq_some,
      Option.some.injEq, ih, digitValue?_eq_some_iff]
    constructor
    · rintro ⟨front, isFront, digit, isDigit, small, rfl⟩
      exact ⟨front, digit, isFront, isDigit, small, rfl⟩
    · rintro ⟨front, digit, isFront, isDigit, small, rfl⟩
      exact ⟨front, isFront, digit, isDigit, small, rfl⟩

end Numeral

/-- An unsigned number is a numeral that is not empty, perhaps after a plus sign. -/
theorem unsigned?_eq_some_iff {base limit value : Nat} {text : List Char} :
    unsigned? base limit text = some value ↔
      ∃ digits, (text = digits ∨ text = '+' :: digits) ∧ digits ≠ [] ∧
        Numeral base digits value ∧ value < limit := by
  have read (digits : List Char) :
      (if digits.isEmpty then none else do
        let value ← valueOf? base digits
        if value < limit then some value else none) = some value ↔
        digits ≠ [] ∧ Numeral base digits value ∧ value < limit := by
    simp only [← valueOf?_eq_some_iff]
    cases digits <;> simp +contextual [Option.bind_eq_some_iff, and_comm]
  unfold unsigned?
  split
  · next rest =>
    rw [read rest]
    constructor
    · rintro ⟨nonempty, numeral, small⟩
      exact ⟨rest, .inr rfl, nonempty, numeral, small⟩
    · rintro ⟨digits, rfl | same, nonempty, numeral, small⟩
      · -- A plus sign is no digit.
        obtain ⟨digit, isDigit⟩ := numeral.isDigit List.mem_cons_self
        nomatch digitValue?_eq_some_iff.mpr isDigit
      · obtain rfl := List.tail_eq_of_cons_eq same
        exact ⟨nonempty, numeral, small⟩
  · next other =>
    rw [read text]
    constructor
    · rintro ⟨nonempty, numeral, small⟩
      exact ⟨text, .inl rfl, nonempty, numeral, small⟩
    · rintro ⟨digits, rfl | same, nonempty, numeral, small⟩
      · exact ⟨nonempty, numeral, small⟩
      · exact absurd same (other digits)

/-- The printed digits of a number are a numeral. -/
theorem numeral_digits (value : Nat) : Numeral 16 (digits value) value := by
  induction value using digits.induct with
  | case1 value few =>
    rw [digits, if_pos few]
    exact numeral_concat_iff.mpr ⟨0, value, numeral_nil_iff.mpr rfl, isDigit_digit few, few,
      by omega⟩
  | case2 value many ih =>
    rw [digits, if_neg many]
    have few : value % 16 < 16 := Nat.mod_lt _ (by decide)
    exact numeral_concat_iff.mpr ⟨value / 16, value % 16, ih, isDigit_digit few, few, by omega⟩

/-- So are the digits that are filled up to a width. -/
theorem numeral_padded (width value : Nat) : Numeral 16 (padded width value) value :=
  (numeral_digits value).zeros (by decide) _

theorem padded_ne_nil (width value : Nat) : padded width value ≠ [] := by
  intro none
  have shown : digits value = [] := (List.append_eq_nil_iff.mp none).2
  rw [digits] at shown
  split at shown
  · nomatch shown
  · exact List.cons_ne_nil _ _ (List.append_eq_nil_iff.mp shown).2

end Hex

end DebugProbe
