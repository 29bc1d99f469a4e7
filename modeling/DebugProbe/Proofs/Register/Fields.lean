import DebugProbe.BitField

/-!
# Fields read back

Bit by bit a field that is set holds the low bits of the new value, and every other bit of the word
is as before. So a field reads back what was set, other fields are left alone, and nothing changes
where a field is set to what it holds. Two words hold the same in a field exactly if they agree
under its mask.
-/

namespace DebugProbe

namespace BitField

variable {field : BitField}

/-- A word has no bits beyond the last one. -/
theorem testBit_eq_false (word : UInt32) {position : Nat} (large : 32 ≤ position) :
    word.toNat.testBit position = false :=
  Nat.testBit_lt_two_pow (Nat.lt_of_lt_of_le word.toNat_lt
    (Nat.pow_le_pow_right Nat.zero_lt_two large))

theorem eq_of_testBit {first second : UInt32}
    (same : ∀ position < 32, first.toNat.testBit position = second.toNat.testBit position) :
    first = second := by
  apply UInt32.toNat_inj.mp
  apply Nat.eq_of_testBit_eq
  intro position
  by_cases small : position < 32
  · exact same position small
  · rw [testBit_eq_false first (Nat.le_of_not_lt small),
      testBit_eq_false second (Nat.le_of_not_lt small)]

/-- Two words agree under a mask exactly if they agree in each bit of the mask. -/
theorem and_eq_and_iff {first second mask : UInt32} :
    first &&& mask = second &&& mask ↔ ∀ position < 32, mask.toNat.testBit position = true →
      first.toNat.testBit position = second.toNat.testBit position := by
  constructor
  · intro same position _ inside
    have bits := congrArg (fun word : UInt32 ↦ word.toNat.testBit position) same
    simpa only [UInt32.toNat_and, Nat.testBit_and, inside, Bool.and_true] using bits
  · intro same
    apply eq_of_testBit
    intro position small
    rw [UInt32.toNat_and, UInt32.toNat_and, Nat.testBit_and, Nat.testBit_and]
    cases inside : mask.toNat.testBit position with
    | false => rw [Bool.and_false, Bool.and_false]
    | true => rw [same position small inside]

theorem and_or_eq_iff {first second mask other : UInt32} :
    first &&& (mask ||| other) = second &&& (mask ||| other) ↔
      first &&& mask = second &&& mask ∧ first &&& other = second &&& other := by
  simp only [and_eq_and_iff, UInt32.toNat_or, Nat.testBit_or, Bool.or_eq_true]
  exact ⟨fun same ↦ ⟨fun position small inside ↦ same position small (.inl inside),
    fun position small inside ↦ same position small (.inr inside)⟩,
    fun same position small inside ↦ inside.elim (same.1 position small) (same.2 position small)⟩

/-- The bits of the mask are those of the field. -/
theorem testBit_mask (field : BitField) {position : Nat} (small : position < 32) :
    field.mask.toNat.testBit position =
      (decide (field.low ≤ position) && decide (position < field.low + field.width)) := by
  unfold mask
  rw [UInt32.toNat_ofNat', Nat.testBit_mod_two_pow, Nat.testBit_shiftLeft, Nat.one_shiftLeft,
    Nat.testBit_two_pow_sub_one]
  by_cases above : field.low ≤ position
  · simp [small, above]
    omega
  · simp [above]

theorem testBit_not (word : UInt32) {position : Nat} (small : position < 32) :
    (~~~word).toNat.testBit position = !word.toNat.testBit position := by
  rw [← UInt32.toNat_toBitVec, ← UInt32.toNat_toBitVec, BitVec.testBit_toNat,
    BitVec.testBit_toNat, UInt32.toBitVec_not, BitVec.getLsbD_not, decide_eq_true small,
    Bool.true_and]

/-- A field that is set holds the new value, and other bits are as before. -/
theorem testBit_set (field : BitField) (value word : UInt32) {position : Nat}
    (small : position < 32) :
    (field.set value word).toNat.testBit position =
      if field.low ≤ position ∧ position < field.low + field.width then
        value.toNat.testBit (position - field.low)
      else word.toNat.testBit position := by
  have shifted : (UInt32.ofNat (value.toNat <<< field.low)).toNat.testBit position =
      (decide (field.low ≤ position) && value.toNat.testBit (position - field.low)) := by
    rw [UInt32.toNat_ofNat', Nat.testBit_mod_two_pow, decide_eq_true small, Bool.true_and,
      Nat.testBit_shiftLeft]
  unfold set
  rw [UInt32.toNat_or, UInt32.toNat_and, UInt32.toNat_and, Nat.testBit_or, Nat.testBit_and,
    Nat.testBit_and, testBit_not field.mask small, testBit_mask field small, shifted]
  by_cases above : field.low ≤ position
  · by_cases below : position < field.low + field.width
    · simp [above, below]
    · simp [above, below]
  · simp [above]

/-- Setting a field leaves all bits outside its mask alone. -/
theorem set_and {keep : UInt32} (apart : field.mask &&& keep = 0) (value word : UInt32) :
    field.set value word &&& keep = word &&& keep := by
  apply UInt32.toBitVec_inj.mp
  ext position small
  have none : (field.mask.toBitVec[position] && keep.toBitVec[position]) = false := by
    rw [← BitVec.getElem_and, ← UInt32.toBitVec_and, apart]
    exact BitVec.getElem_zero small
  unfold set
  simp only [UInt32.toBitVec_and, UInt32.toBitVec_or, UInt32.toBitVec_not, BitVec.getElem_and,
    BitVec.getElem_or, BitVec.getElem_not]
  cases outside : field.mask.toBitVec[position] with
  | false => simp
  | true =>
    rw [outside, Bool.true_and] at none
    simp [none]

/-- A field is read from its own bits. -/
theorem testBit_get (field : BitField) (word : UInt32) (position : Nat) :
    (field.get word).toNat.testBit position =
      (decide (position < field.width) && word.toNat.testBit (field.low + position)) := by
  have small : (word.toNat >>> field.low) % (1 <<< field.width) < UInt32.size := by
    refine Nat.lt_of_le_of_lt (Nat.mod_le _ _) (Nat.lt_of_le_of_lt ?_ word.toNat_lt)
    rw [Nat.shiftRight_eq_div_pow]
    exact Nat.div_le_self _ _
  unfold get
  rw [UInt32.toNat_ofNat_of_lt' small, Nat.one_shiftLeft, Nat.testBit_mod_two_pow,
    Nat.testBit_shiftRight]

/-- A field reads back a byte that fits into it. -/
theorem getByte_setByte (fits : field.low + field.width ≤ 32) {value : UInt8} (word : UInt32)
    (narrow : value.toNat < 1 <<< field.width) :
    field.getByte (field.setByte value word) = value := by
  have same : field.get (field.setByte value word) = value.toUInt32 := by
    apply UInt32.toNat_inj.mp
    apply Nat.eq_of_testBit_eq
    intro position
    rw [testBit_get, UInt8.toNat_toUInt32]
    by_cases inside : position < field.width
    · unfold setByte
      rw [decide_eq_true inside, Bool.true_and, testBit_set field _ _ (by omega),
        if_pos (by omega), UInt8.toNat_toUInt32, Nat.add_sub_cancel_left]
    · rw [decide_eq_false inside, Bool.false_and]
      rw [Nat.one_shiftLeft] at narrow
      exact (Nat.testBit_lt_two_pow (Nat.lt_of_lt_of_le narrow
        (Nat.pow_le_pow_right Nat.zero_lt_two (Nat.le_of_not_lt inside)))).symm
  unfold getByte
  rw [same, UInt8.toUInt8_toUInt32]

theorem testBit_getByte (narrow : field.width ≤ 8) (word : UInt32) (position : Nat) :
    (field.getByte word).toNat.testBit position =
      (decide (position < field.width) && word.toNat.testBit (field.low + position)) := by
  unfold getByte
  rw [UInt32.toNat_toUInt8, Nat.testBit_mod_two_pow, testBit_get]
  by_cases inside : position < field.width
  · rw [decide_eq_true (Nat.lt_of_lt_of_le inside narrow), Bool.true_and]
  · rw [decide_eq_false inside, Bool.false_and, Bool.and_false]

/-- A field that is set to what it holds leaves the word as it is. -/
theorem setByte_getByte (narrow : field.width ≤ 8) (word : UInt32) :
    field.setByte (field.getByte word) word = word := by
  apply eq_of_testBit
  intro position small
  unfold setByte
  rw [testBit_set field _ _ small]
  split
  · next inside =>
    rw [UInt8.toNat_toUInt32, testBit_getByte narrow, Nat.add_sub_cancel' inside.1,
      decide_eq_true (by omega), Bool.true_and]
  · rfl

/-- A field has the same value in two words exactly if the words agree under its mask. -/
theorem getByte_eq_getByte_iff (narrow : field.width ≤ 8) (fits : field.low + field.width ≤ 32)
    {first second : UInt32} :
    field.getByte first = field.getByte second ↔
      first &&& field.mask = second &&& field.mask := by
  rw [and_eq_and_iff]
  constructor
  · intro same position small inside
    rw [testBit_mask field small, Bool.and_eq_true, decide_eq_true_iff,
      decide_eq_true_iff] at inside
    have bits := congrArg (fun byte : UInt8 ↦ byte.toNat.testBit (position - field.low)) same
    simp only [testBit_getByte narrow, Nat.add_sub_cancel' inside.1] at bits
    rwa [decide_eq_true (by omega), Bool.true_and, Bool.true_and] at bits
  · intro same
    apply UInt8.toNat_inj.mp
    apply Nat.eq_of_testBit_eq
    intro position
    rw [testBit_getByte narrow, testBit_getByte narrow]
    by_cases inside : position < field.width
    · have masked : field.mask.toNat.testBit (field.low + position) = true := by
        rw [testBit_mask field (by omega), decide_eq_true (by omega), decide_eq_true (by omega)]
        rfl
      rw [same _ (by omega) masked]
    · rw [decide_eq_false inside, Bool.false_and, Bool.false_and]

/-- Setting a field leaves every other field alone. -/
theorem getByte_setByte_of_disjoint {other : BitField} (value : UInt8) (word : UInt32)
    (fits : other.low + other.width ≤ 32)
    (apart : field.low + field.width ≤ other.low ∨ other.low + other.width ≤ field.low) :
    other.getByte (field.setByte value word) = other.getByte word := by
  have same : other.get (field.setByte value word) = other.get word := by
    apply UInt32.toNat_inj.mp
    apply Nat.eq_of_testBit_eq
    intro position
    rw [testBit_get, testBit_get]
    by_cases inside : position < other.width
    · unfold setByte
      rw [testBit_set field _ _ (by omega), if_neg (by omega)]
    · rw [decide_eq_false inside, Bool.false_and, Bool.false_and]
  unfold getByte
  rw [same]

end BitField

end DebugProbe
