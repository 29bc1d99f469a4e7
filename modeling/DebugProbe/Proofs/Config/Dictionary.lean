import DebugProbe.Config.Value
import Mathlib.Data.String.Basic

/-!
# Dictionaries

What is found in a dictionary after a value was inserted or one layer was put over another, and that
the pairs stay in the order of their keys.
-/

namespace DebugProbe

namespace Dictionary

variable {α : Type} {key other : String} {value : α} {pairs : Dictionary α}

/-- Pairs in the order of their keys, each key once. -/
def Sorted (pairs : Dictionary α) : Prop := pairs.Pairwise fun first second ↦ first.1 < second.1

@[simp] theorem find?_nil (key : String) : find? key ([] : Dictionary α) = none := rfl

@[simp] theorem find?_cons (key : String) (pair : String × α) (rest : Dictionary α) :
    find? key (pair :: rest) = if pair.1 = key then some pair.2 else find? key rest := rfl

@[simp] theorem find?_insert_self (key : String) (value : α) (pairs : Dictionary α) :
    find? key (insert key value pairs) = some value := by
  induction pairs with
  | nil => simp [insert]
  | cons pair rest ih =>
    by_cases before : key < pair.1
    · simp [insert, before]
    · by_cases same : key = pair.1
      · simp [insert, same]
      · simp [insert, before, same, Ne.symm same, ih]

theorem find?_insert_of_ne (ne : other ≠ key) (value : α) (pairs : Dictionary α) :
    find? other (insert key value pairs) = find? other pairs := by
  induction pairs with
  | nil => simp [insert, ne.symm]
  | cons pair rest ih =>
    by_cases before : key < pair.1
    · simp [insert, before, ne.symm]
    · by_cases same : key = pair.1
      · subst same
        simp [insert, ne.symm]
      · simp [insert, before, same, ih]

/-- A pair after an insertion is the new one or an old one. -/
theorem mem_insert {pair : String × α} (member : pair ∈ insert key value pairs) :
    pair = (key, value) ∨ pair ∈ pairs := by
  induction pairs with
  | nil => simpa [insert] using member
  | cons head rest ih =>
    by_cases before : key < head.1
    · simpa [insert, before] using member
    · by_cases same : key = head.1
      · have found : pair = (key, value) ∨ pair ∈ rest := by simpa [insert, same] using member
        exact found.imp_right (List.mem_cons_of_mem head)
      · have found : pair = head ∨ pair ∈ insert key value rest := by
          simpa [insert, before, same] using member
        rcases found with rfl | later
        · exact .inr List.mem_cons_self
        · exact (ih later).imp_right (List.mem_cons_of_mem head)

theorem sorted_insert (sorted : Sorted pairs) (key : String) (value : α) :
    Sorted (insert key value pairs) := by
  induction pairs with
  | nil => exact List.pairwise_singleton _ _
  | cons head rest ih =>
    obtain ⟨first, later⟩ := List.pairwise_cons.mp sorted
    by_cases before : key < head.1
    · simp only [insert, before, if_true]
      apply List.Pairwise.cons _ sorted
      intro pair member
      rcases List.mem_cons.mp member with rfl | member
      · exact before
      · exact lt_trans before (first pair member)
    · by_cases same : key = head.1
      · subst same
        simp only [insert, before, if_true, if_false]
        exact List.Pairwise.cons first later
      · simp only [insert, before, same, if_false]
        apply List.Pairwise.cons _ (ih later)
        intro pair member
        rcases mem_insert member with rfl | member
        · exact lt_of_le_of_ne (not_lt.mp before) (Ne.symm same)
        · exact first pair member

/-- A key that comes before all others is not among them. -/
theorem find?_eq_none_of_forall_lt (first : ∀ pair ∈ pairs, key < pair.1) :
    find? key pairs = none := by
  induction pairs with
  | nil => rfl
  | cons pair rest ih =>
    have ne : pair.1 ≠ key := (first pair List.mem_cons_self).ne'
    simp [ne, ih fun other member ↦ first other (List.mem_cons_of_mem pair member)]

theorem mem_of_find? (found : find? key pairs = some value) : (key, value) ∈ pairs := by
  induction pairs with
  | nil => nomatch found
  | cons pair rest ih =>
    by_cases same : pair.1 = key
    · subst same
      obtain rfl : pair.2 = value := by simpa using found
      exact List.mem_cons_self
    · exact List.mem_cons_of_mem pair (ih (by simpa [same] using found))

/-- A property of all keys is one of the keys that are found. -/
theorem forall_key_iff {P : String → Prop} :
    (∀ pair ∈ pairs, P pair.1) ↔ ∀ key, (find? key pairs).isSome → P key := by
  induction pairs with
  | nil => simp
  | cons pair rest ih =>
    simp only [List.forall_mem_cons, ih, find?_cons]
    constructor
    · rintro ⟨first, later⟩ key found
      by_cases same : pair.1 = key
      · exact same ▸ first
      · exact later key (by simpa [same] using found)
    · intro each
      refine ⟨each pair.1 (by simp), fun key found ↦ each key ?_⟩
      by_cases same : pair.1 = key
      · simp [same]
      · simpa [same] using found

end Dictionary

/-- If the setting is a table, its pairs are in order. -/
def Setting.InOrder (setting : Setting) : Prop :=
  ∀ entries, setting = .table entries → Dictionary.Sorted entries

/-- The pairs of a layer and those of its tables are in order. -/
structure Layer (entries : List (String × Setting)) : Prop where
  sorted : Dictionary.Sorted entries
  inner : ∀ pair ∈ entries, pair.2.InOrder

theorem Layer.nil : Layer [] := ⟨.nil, List.forall_mem_nil _⟩

namespace Setting

open Dictionary

/-- One value put over another, or set alone. -/
def onto : Option Setting → Setting → Setting
  | none, upper => upper
  | some base, upper => merge base upper

theorem mergeEntries_cons (base : List (String × Setting)) (key : String) (value : Setting)
    (rest : List (String × Setting)) :
    mergeEntries base ((key, value) :: rest) =
      mergeEntries (insert key (onto (find? key base) value) base) rest := by
  rw [mergeEntries]
  cases find? key base <;> rfl

@[simp] theorem mergeEntries_nil (base : List (String × Setting)) :
    mergeEntries base [] = base := by
  rw [mergeEntries]

/-- Each key has what the upper layer puts over the lower one. -/
theorem find?_mergeEntries {base upper : List (String × Setting)} (sorted : Sorted upper)
    (key : String) :
    find? key (mergeEntries base upper) =
      match find? key upper with
      | some value => some (onto (find? key base) value)
      | none => find? key base := by
  induction upper generalizing base with
  | nil => simp
  | cons pair rest ih =>
    obtain ⟨first, later⟩ := List.pairwise_cons.mp sorted
    rw [mergeEntries_cons, ih later]
    by_cases same : pair.1 = key
    · subst same
      simp [find?_eq_none_of_forall_lt first]
    · simp [same, find?_insert_of_ne (Ne.symm same)]

/-- The keys of merged layers are those of both. -/
theorem forall_key_mergeEntries_iff {base upper : List (String × Setting)} (sorted : Sorted upper)
    {P : String → Prop} :
    (∀ pair ∈ mergeEntries base upper, P pair.1) ↔
      (∀ pair ∈ base, P pair.1) ∧ ∀ pair ∈ upper, P pair.1 := by
  simp only [forall_key_iff, find?_mergeEntries sorted, ← forall_and]
  refine forall_congr' fun key ↦ ?_
  cases find? key upper <;> cases find? key base <;> simp

theorem sorted_mergeEntries {base : List (String × Setting)} (sorted : Sorted base)
    (upper : List (String × Setting)) : Sorted (mergeEntries base upper) := by
  induction upper generalizing base with
  | nil => simpa using sorted
  | cons pair rest ih =>
    rw [mergeEntries_cons]
    exact ih (sorted_insert sorted _ _)

/-- One table put over another is in order. -/
theorem InOrder.onto {base : Option Setting} {upper : Setting}
    (below : ∀ lower ∈ base, lower.InOrder) (above : upper.InOrder) :
    (onto base upper).InOrder := by
  cases base with
  | none => exact above
  | some lower =>
    intro entries same
    cases lower with
    | table under =>
      cases upper with
      | table pairs =>
        simp only [Setting.onto, merge] at same
        obtain rfl := Setting.table.inj same
        exact sorted_mergeEntries (below _ rfl under rfl) pairs
      | text | character | boolean | integer | decimal | array =>
        simp only [Setting.onto, merge] at same
        nomatch same
    | text | character | boolean | integer | decimal | array =>
      simp only [Setting.onto, merge] at same
      exact above entries same

end Setting

/-- One layer put over another is in order. -/
theorem Layer.mergeEntries {base upper : List (String × Setting)} (below : Layer base)
    (above : ∀ pair ∈ upper, pair.2.InOrder) : Layer (Setting.mergeEntries base upper) := by
  induction upper generalizing base with
  | nil => simpa using below
  | cons pair rest ih =>
    rw [Setting.mergeEntries_cons]
    apply ih _ fun other member ↦ above other (List.mem_cons_of_mem pair member)
    refine ⟨Dictionary.sorted_insert below.sorted _ _, fun other member ↦ ?_⟩
    rcases Dictionary.mem_insert member with rfl | member
    · apply Setting.InOrder.onto _ (above pair List.mem_cons_self)
      intro lower found
      exact below.inner _ (Dictionary.mem_of_find? found)
    · exact below.inner other member

end DebugProbe
