import DebugProbe.Config.Environment
import DebugProbe.Proofs.Config.Dictionary
import DebugProbe.Proofs.Text.Scan

/-!
# The layer of environment variables

The layer is in order whatever the variables are. If no variable leads to a key that another one
leads to or through, each variable's value stands where its name leads, and nothing else is there.
-/

namespace DebugProbe

namespace Setting

/-- The setting below some keys. -/
def at? : List String → Setting → Option Setting
  | [], setting => some setting
  | key :: path, .table entries => (Dictionary.find? key entries).bind (at? path)
  | _ :: _, _ => none

end Setting

namespace Environment

open Setting

/-- Pairs that are taken in one after the other are in order. -/
private theorem sorted_foldl (pairs : List (String × Setting)) {entries : List (String × Setting)}
    (sorted : Dictionary.Sorted entries) :
    Dictionary.Sorted
      (pairs.foldl (fun entries (name, item) ↦ Dictionary.insert name item entries) entries) := by
  induction pairs generalizing entries with
  | nil => exact sorted
  | cons pair rest ih => exact ih (Dictionary.sorted_insert sorted _ _)

/-- Words that are neither quoted nor a list nor a table are in order. -/
private theorem inOrder_wordValue (word : List Char) : (wordValue word).InOrder := by
  unfold wordValue
  split
  · nofun
  · split
    · nofun
    · nofun

/-- Every value is in order. -/
private theorem gives_value (depth : Nat) : Scan.Gives (value depth) Setting.InOrder := by
  unfold value
  refine Scan.gives_bind fun _ ↦ Scan.Gives.bind (?_ : Scan.Gives _ Setting.InOrder)
    fun found ordered ↦ Scan.gives_bind fun _ ↦ Scan.gives_pure ordered
  refine Scan.gives_bind fun isTrue ↦ ?_
  split
  · exact Scan.gives_bind fun _ ↦ Scan.gives_pure nofun
  · refine Scan.gives_bind fun isFalse ↦ ?_
    split
    · exact Scan.gives_bind fun _ ↦ Scan.gives_pure nofun
    · refine Scan.gives_bind fun next ↦ ?_
      split
      · cases depth with
        | zero => exact Scan.gives_failure
        | succ depth =>
          refine Scan.gives_bind fun pairs ↦ Scan.gives_pure ?_
          rintro _ ⟨⟩
          exact sorted_foldl pairs .nil
      · cases depth with
        | zero => exact Scan.gives_failure
        | succ depth => exact Scan.Gives.map ((Scan.gives_true _).imp fun _ _ ↦ nofun)
      · exact Scan.Gives.map ((Scan.gives_true _).imp fun _ _ ↦ nofun)
      · exact Scan.Gives.map ((Scan.gives_true _).imp fun _ _ ↦ nofun)
      · exact Scan.gives_bind fun word ↦ Scan.gives_pure (inOrder_wordValue _)

theorem inOrder_setting (content : String) : (setting content).InOrder := by
  unfold setting
  dsimp only
  cases taken : Scan.whole? (value content.toList.length) content.toList with
  | none =>
    rw [Option.getD_none]
    nofun
  | some found => exact (gives_value _).whole? taken

theorem inOrder_nested (keys : List String) {leaf : Setting} (ordered : leaf.InOrder) :
    (nested keys leaf).InOrder := by
  cases keys with
  | nil => exact ordered
  | cons key keys =>
    rintro _ ⟨⟩
    exact List.pairwise_singleton _ _

/-- What a variable contributes is in order. -/
private theorem inOrder_variableEntries (name content : String) :
    ∀ pair ∈ variableEntries name content, pair.2.InOrder := by
  unfold variableEntries
  split
  · exact List.forall_mem_singleton.mpr (inOrder_nested _ (inOrder_setting content))
  · exact List.forall_mem_nil _

/-- The layer of the variables is in order. -/
theorem layer_entries (environment : List (String × String)) : Layer (entries environment) := by
  unfold entries
  generalize environment.mergeSort precedes = ordered
  have start := Layer.nil
  generalize ([] : List (String × Setting)) = merged at start ⊢
  induction ordered generalizing merged with
  | nil => exact start
  | cons pair rest ih => exact ih _ (start.mergeEntries (inOrder_variableEntries pair.1 pair.2))

/-- Nothing but tables stands on the way to some keys, and nothing where they lead. -/
private def Clear : (keys : List String) → (base : Option Setting) → Prop
  | _, none => True
  | key :: keys, some (.table entries) => Clear keys (Dictionary.find? key entries)
  | _, some _ => False

/-- What stands below a key. -/
private def below (key : String) : Option Setting → Option Setting
  | some (.table entries) => Dictionary.find? key entries
  | _ => none

private theorem Clear.below {key : String} {keys : List String} {base : Option Setting}
    (clear : Clear (key :: keys) base) : Clear keys (below key base) := by
  cases base with
  | none => cases keys <;> trivial
  | some setting =>
    cases setting with
    | table entries => exact clear
    | text | character | boolean | integer | decimal | array => exact False.elim clear

/-- A table with one pair over another table. -/
private theorem at?_onto_cons {key : String} {keys : List String} {base : Option Setting}
    (clear : Clear (key :: keys) base) (inner : Setting) (other : String) (path : List String) :
    (onto base (.table [(key, inner)])).at? (other :: path) =
      if other = key then (onto (Environment.below key base) inner).at? path
      else base.bind (Setting.at? (other :: path)) := by
  cases base with
  | none =>
    by_cases same : other = key
    · subst same
      simp [onto, Setting.at?, Environment.below]
    · simp [onto, Setting.at?, same, Ne.symm same]
  | some setting =>
    cases setting with
    | table entries =>
      by_cases same : other = key
      · subst same
        simp [onto, merge, Setting.at?, Environment.below, mergeEntries_cons]
      · simp [onto, merge, Setting.at?, same, mergeEntries_cons,
          Dictionary.find?_insert_of_ne same]
    | text | character | boolean | integer | decimal | array => exact False.elim clear

/-- What is put below some keys stands there. -/
private theorem at?_onto_nested {keys : List String} {base : Option Setting}
    (clear : Clear keys base) (leaf : Setting) (path : List String) :
    (onto base (nested keys leaf)).at? (keys ++ path) = leaf.at? path := by
  induction keys generalizing base with
  | nil =>
    cases base with
    | none => rfl
    | some setting => cases setting <;> exact False.elim clear
  | cons key keys ih =>
    rw [nested, List.cons_append, at?_onto_cons clear, if_pos rfl]
    exact ih clear.below

private theorem bind_at?_cons (key : String) (path : List String) (base : Option Setting) :
    base.bind (Setting.at? (key :: path)) =
      (Environment.below key base).bind (Setting.at? path) := by
  cases base with
  | none => rfl
  | some setting => cases setting <;> rfl

private theorem table_onto {key : String} {keys : List String} {base : Option Setting}
    (clear : Clear (key :: keys) base) {leaf : Setting} :
    ∃ entries, (onto base (nested (key :: keys) leaf)).at? [] = some (.table entries) := by
  cases base with
  | none => exact ⟨_, rfl⟩
  | some setting =>
    cases setting with
    | table entries => simp [nested, onto, merge, Setting.at?]
    | text | character | boolean | integer | decimal | array => exact False.elim clear

/-- Elsewhere nothing changes, except that there are tables on the way. -/
private theorem at?_onto_nested_of_apart {keys : List String} {base : Option Setting}
    (clear : Clear keys base) (leaf : Setting) {path : List String} (apart : ¬keys <+: path) :
    (onto base (nested keys leaf)).at? path = base.bind (Setting.at? path) ∨
      path <+: keys ∧
        ∃ entries, (onto base (nested keys leaf)).at? path = some (.table entries) := by
  induction keys generalizing base path with
  | nil => exact absurd List.nil_prefix apart
  | cons key keys ih =>
    cases path with
    | nil => exact .inr ⟨List.nil_prefix, table_onto clear⟩
    | cons other path =>
      rw [nested, at?_onto_cons clear]
      by_cases same : other = key
      · subst same
        rw [if_pos rfl, bind_at?_cons]
        have others : ¬keys <+: path := fun before ↦ apart (List.cons_prefix_cons.mpr ⟨rfl, before⟩)
        exact (ih clear.below others).imp_right fun ⟨before, found⟩ ↦
          ⟨List.cons_prefix_cons.mpr ⟨rfl, before⟩, found⟩
      · exact .inl (if_neg same)

/-- The settings of variables stand where their names lead, and nothing else does. -/
structure Holds (given : List (List String × Setting)) (root : Setting) : Prop where
  own : ∀ keys leaf, (keys, leaf) ∈ given → ∀ path, root.at? (keys ++ path) = leaf.at? path
  others : ∀ path, (∀ keys leaf, (keys, leaf) ∈ given → ¬keys <+: path) →
    root.at? path = none ∨ (∃ entries, root.at? path = some (.table entries)) ∧
      (path = [] ∨ ∃ keys leaf, (keys, leaf) ∈ given ∧ path <+: keys)

/-- Neither of two keys leads to or through the other. -/
def Separate (first second : List String) : Prop := ¬first <+: second ∧ ¬second <+: first

theorem Separate.symm {first second : List String} (separate : Separate first second) :
    Separate second first :=
  ⟨separate.2, separate.1⟩

/-- The way to keys is clear if there are only tables on it. -/
private theorem clear_of {keys : List String} {root : Setting}
    (tables : ∀ path, path <+: keys → path ≠ keys →
      root.at? path = none ∨ ∃ entries, root.at? path = some (.table entries))
    (none : root.at? keys = none) : Clear keys (some root) := by
  induction keys generalizing root with
  | nil => nomatch none
  | cons key keys ih =>
    rcases tables [] List.nil_prefix (List.cons_ne_nil key keys).symm with none | ⟨entries, same⟩
    · nomatch none
    · obtain rfl : root = .table entries := Option.some.inj same
      show Clear keys (Dictionary.find? key entries)
      cases found : Dictionary.find? key entries with
      | none => cases keys <;> trivial
      | some inner =>
        have down (path : List String) :
            (Setting.table entries).at? (key :: path) = inner.at? path := by
          simp [Setting.at?, found]
        apply ih
        · intro path before ne
          rw [← down]
          exact tables (key :: path) (List.cons_prefix_cons.mpr ⟨rfl, before⟩) (by simpa using ne)
        · rw [← down]
          exact none

section

variable {given : List (List String × Setting)} {root : Setting} {keys : List String}

/-- The way to separate keys is clear. -/
private theorem Holds.clear (holds : Holds given root) (ne : keys ≠ [])
    (separate : ∀ other leaf, (other, leaf) ∈ given → Separate keys other) :
    Clear keys (some root) := by
  apply clear_of
  · intro path before _
    have apart : ∀ other leaf, (other, leaf) ∈ given → ¬other <+: path :=
      fun other leaf member among ↦ (separate other leaf member).2 (among.trans before)
    exact (holds.others path apart).imp_right And.left
  · have apart : ∀ other leaf, (other, leaf) ∈ given → ¬other <+: keys :=
      fun other leaf member ↦ (separate other leaf member).2
    rcases holds.others keys apart with none | ⟨-, empty | ⟨other, leaf, member, before⟩⟩
    · exact none
    · exact absurd empty ne
    · exact absurd before (separate other leaf member).1

/-- One more variable leaves those before it where they are. -/
private theorem Holds.add (holds : Holds given root) (ne : keys ≠ [])
    (separate : ∀ other leaf, (other, leaf) ∈ given → Separate keys other) (leaf : Setting) :
    Holds ((keys, leaf) :: given) (onto (some root) (nested keys leaf)) where
  own other value member path := by
    have clear := holds.clear ne separate
    rcases List.mem_cons.mp member with same | member
    · obtain ⟨rfl, rfl⟩ := Prod.mk.inj same
      exact at?_onto_nested clear value path
    · have apart := separate other value member
      have elsewhere : ¬keys <+: other ++ path := fun before ↦
        (List.prefix_or_prefix_of_prefix before (List.prefix_append other path)).elim
          apart.1 apart.2
      rcases at?_onto_nested_of_apart clear leaf elsewhere with same | ⟨before, -⟩
      · rw [same]
        exact holds.own other value member path
      · exact absurd ((List.prefix_append other path).trans before) apart.2
  others path apart := by
    have elsewhere : ¬keys <+: path := apart keys leaf List.mem_cons_self
    rcases at?_onto_nested_of_apart (holds.clear ne separate) leaf elsewhere with
      same | ⟨before, table⟩
    · rw [same]
      have old := holds.others path fun other value member ↦
        apart other value (List.mem_cons_of_mem _ member)
      refine old.imp_right (And.imp_right (Or.imp_right ?_))
      rintro ⟨other, value, member, before⟩
      exact ⟨other, value, List.mem_cons_of_mem _ member, before⟩
    · exact .inr ⟨table, .inr ⟨keys, leaf, List.mem_cons_self, before⟩⟩

/-- Only what is given matters, not in which order. -/
private theorem Holds.congr {others : List (List String × Setting)} (holds : Holds given root)
    (same : ∀ entry, entry ∈ given ↔ entry ∈ others) : Holds others root where
  own keys leaf member := holds.own keys leaf ((same _).mpr member)
  others path apart := by
    have old := holds.others path fun keys leaf member ↦ apart keys leaf ((same _).mp member)
    refine old.imp_right (And.imp_right (Or.imp_right ?_))
    rintro ⟨keys, leaf, member, before⟩
    exact ⟨keys, leaf, (same _).mp member, before⟩

end

/-- What the variables of the program give, by the keys that their names lead through. -/
def given (environment : List (String × String)) : List (List String × Setting) :=
  environment.filterMap fun (name, content) ↦ (keys? name).map (·, setting content)

/-- No two variables lead to the same keys, or one of them through those of the other. -/
def Apart (environment : List (String × String)) : Prop :=
  (given environment).Pairwise fun first second ↦ Separate first.1 second.1

instance (first second : List String) : Decidable (Separate first second) :=
  inferInstanceAs (Decidable (_ ∧ _))

instance (environment : List (String × String)) : Decidable (Apart environment) :=
  decidable_of_iff ((environment.filterMap fun (name, _) ↦ keys? name).Pairwise Separate) <| by
    have same : (environment.filterMap fun (name, _) ↦ keys? name) =
        (given environment).map Prod.fst := by
      simp [given, List.map_filterMap, Function.comp_def]
    rw [Apart, same, List.pairwise_map]

private theorem splitDots_ne_nil (characters : List Char) : splitDots characters ≠ [] := by
  cases characters with
  | nil => nofun
  | cons c rest =>
    rw [splitDots]
    split
    · nofun
    · split <;> nofun

theorem keys?_ne_nil {name : String} {keys : List String} (named : keys? name = some keys) :
    keys ≠ [] := by
  unfold keys? at named
  dsimp only at named
  split at named
  · split at named
    · nomatch named
    · obtain rfl := Option.some.inj named
      simpa using splitDots_ne_nil _
  · nomatch named

/-- A variable puts its setting below its keys. -/
private theorem table_mergeEntries {name content : String} {keys : List String}
    (named : keys? name = some keys) (merged : List (String × Setting)) :
    Setting.table (mergeEntries merged (variableEntries name content)) =
      onto (some (.table merged)) (nested keys (setting content)) := by
  cases keys with
  | nil => exact absurd rfl (keys?_ne_nil named)
  | cons key keys =>
    rw [variableEntries, named]
    simp [onto, nested, merge]

/-- What separate variables give is held once they are all taken in. -/
private theorem holds_foldl (ordered : List (String × String))
    {merged : List (String × Setting)} {before : List (List String × Setting)}
    (holds : Holds before (.table merged))
    (separate : (before.reverse ++ given ordered).Pairwise fun first second ↦
      Separate first.1 second.1) :
    Holds (before.reverse ++ given ordered) (.table (ordered.foldl
      (fun merged (name, content) ↦ mergeEntries merged (variableEntries name content))
        merged)) := by
  induction ordered generalizing merged before with
  | nil => exact holds.congr (by simp [given])
  | cons pair rest ih =>
    obtain ⟨name, content⟩ := pair
    cases named : keys? name with
    | none =>
      have unnamed : given ((name, content) :: rest) = given rest := by simp [given, named]
      have nothing : variableEntries name content = [] := by rw [variableEntries, named]
      rw [unnamed] at separate ⊢
      rw [List.foldl_cons]
      dsimp only
      rw [nothing, mergeEntries_nil]
      exact ih holds separate
    | some keys =>
      have next : before.reverse ++ given ((name, content) :: rest) =
          ((keys, setting content) :: before).reverse ++ given rest := by
        simp [given, named]
      rw [next] at separate ⊢
      apply ih _ separate
      rw [table_mergeEntries named]
      apply holds.add (keys?_ne_nil named)
      intro other leaf member
      rw [List.reverse_cons, List.append_assoc, List.pairwise_append] at separate
      exact (separate.2.2 _ (List.mem_reverse.mpr member) _ List.mem_cons_self).symm

private theorem holds_nil : Holds [] (.table []) where
  own _ _ member := nomatch member
  others path _ := by
    cases path with
    | nil => exact .inr ⟨⟨[], rfl⟩, .inl rfl⟩
    | cons key path => exact .inl rfl

/-- The layer holds what the variables give. -/
theorem holds_entries {environment : List (String × String)} (apart : Apart environment) :
    Holds (given environment) (.table (entries environment)) := by
  have same : (given (environment.mergeSort precedes)).Perm (given environment) :=
    (List.mergeSort_perm environment precedes).filterMap _
  have sorted := holds_foldl (environment.mergeSort precedes) holds_nil
    ((same.pairwise_iff Separate.symm).mpr apart)
  exact sorted.congr fun entry ↦ same.mem_iff

/-- Variables that give nothing leave nothing. -/
theorem entries_eq_nil {environment : List (String × String)} (nothing : given environment = []) :
    entries environment = [] := by
  have unnamed : ∀ pair ∈ environment.mergeSort precedes, keys? pair.1 = none := by
    intro pair member
    have given := List.filterMap_eq_nil_iff.mp nothing pair (List.mem_mergeSort.mp member)
    simpa using given
  unfold entries
  generalize environment.mergeSort precedes = ordered at unnamed ⊢
  induction ordered with
  | nil => rfl
  | cons pair rest ih =>
    obtain ⟨first, later⟩ := List.forall_mem_cons.mp unnamed
    have none : variableEntries pair.1 pair.2 = [] := by rw [variableEntries, first]
    rw [List.foldl_cons]
    dsimp only
    rw [none, mergeEntries_nil]
    exact ih later

end Environment

end DebugProbe
