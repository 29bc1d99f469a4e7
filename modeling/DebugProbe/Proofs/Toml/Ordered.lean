import DebugProbe.Proofs.Config.Dictionary
import DebugProbe.Proofs.Text.Scan
import DebugProbe.Toml.Document

/-!
# Documents are in order

However a document is written, the pairs of the tables that it describes are in the order of their
keys, each key once.
-/

namespace DebugProbe

open Dictionary

namespace Toml

/-- If the value is a table, its pairs are in order. -/
def Node.InOrder (node : Node) : Prop :=
  ∀ origin entries, node = .table origin entries → Sorted entries

namespace Entries

/-- The pairs of a document and those of its tables are in order. -/
structure InOrder (entries : Entries) : Prop where
  sorted : Sorted entries
  inner : ∀ pair ∈ entries, pair.2.InOrder

theorem inOrder_nil : InOrder [] := ⟨.nil, List.forall_mem_nil _⟩

variable {entries changed : Entries} {node : Node} {key : String} {path : List String}

theorem InOrder.insert (ordered : InOrder entries) (inner : node.InOrder) :
    InOrder (Dictionary.insert key node entries) := by
  refine ⟨sorted_insert ordered.sorted key node, fun pair member ↦ ?_⟩
  rcases mem_insert member with rfl | member
  · exact inner
  · exact ordered.inner pair member

private theorem inOrder_table {origin : TableOrigin} (sorted : Sorted entries) :
    (Node.table origin entries).InOrder := by
  rintro _ _ ⟨⟩
  exact sorted

private theorem inOrder_tables {items : List Entries} : (Node.tables items).InOrder := nofun

/-- A table that is found in a document in order is in order. -/
private theorem InOrder.of_find? {origin : TableOrigin} {inner : Entries}
    (ordered : InOrder entries) (found : find? key entries = some (.table origin inner)) :
    Sorted inner :=
  ordered.inner _ (mem_of_find? found) _ _ rfl

/-- A change of a document leaves the pairs in order, and those of the tables if they were. -/
def Keeps (step : Entries → Option Entries) : Prop :=
  ∀ ⦃entries changed⦄, step entries = some changed →
    (Sorted entries → Sorted changed) ∧ (InOrder entries → InOrder changed)

/-- A value takes its place among the pairs. -/
private theorem keeps_insert (part : String) {added : Node}
    (inner : InOrder entries → added.InOrder) :
    (Sorted entries → Sorted (Dictionary.insert part added entries)) ∧
      (InOrder entries → InOrder (Dictionary.insert part added entries)) :=
  ⟨fun sorted ↦ sorted_insert sorted part added, fun ordered ↦ ordered.insert (inner ordered)⟩

theorem keeps_put (inner : node.InOrder) (key : String) (path : List String) :
    Keeps (put node key path) := by
  induction path with
  | nil =>
    intro entries changed done
    rw [put] at done
    split at done
    · nomatch done
    · obtain rfl := Option.some.inj done
      exact keeps_insert key fun _ ↦ inner
  | cons part rest ih =>
    intro entries changed done
    rw [put] at done
    split at done
    · obtain ⟨under, within, same⟩ := Option.bind_eq_some_iff.mp done
      obtain rfl := Option.some.inj same
      exact keeps_insert part fun _ ↦ inOrder_table ((ih within).1 .nil)
    · next origin under found =>
      split at done
      · obtain ⟨changed, within, same⟩ := Option.bind_eq_some_iff.mp done
        obtain rfl := Option.some.inj same
        exact keeps_insert part fun ordered ↦ inOrder_table ((ih within).1 (ordered.of_find? found))
      · nomatch done
    · split at done
      · nomatch done
      · split at done
        · nomatch done
        · obtain ⟨changed, -, same⟩ := Option.bind_eq_some_iff.mp done
          obtain rfl := Option.some.inj same
          exact keeps_insert part fun _ ↦ inOrder_tables
    · nomatch done

theorem Keeps.change {step : Entries → Option Entries} (keeps : Keeps step) (path : List String) :
    Keeps (change step path) := by
  induction path with
  | nil =>
    intro entries changed done
    rw [Entries.change] at done
    exact keeps done
  | cons part rest ih =>
    intro entries changed done
    rw [Entries.change] at done
    split at done
    · obtain ⟨under, within, same⟩ := Option.bind_eq_some_iff.mp done
      obtain rfl := Option.some.inj same
      exact keeps_insert part fun _ ↦ inOrder_table ((ih within).1 .nil)
    · next origin under found =>
      split at done
      · nomatch done
      · obtain ⟨changed, within, same⟩ := Option.bind_eq_some_iff.mp done
        obtain rfl := Option.some.inj same
        exact keeps_insert part fun ordered ↦ inOrder_table ((ih within).1 (ordered.of_find? found))
    · split at done
      · nomatch done
      · obtain ⟨changed, -, same⟩ := Option.bind_eq_some_iff.mp done
        obtain rfl := Option.some.inj same
        exact keeps_insert part fun _ ↦ inOrder_tables
    · nomatch done

theorem keeps_openTable (key : String) : Keeps (openTable key) := by
  intro entries changed done
  unfold openTable at done
  split at done
  · obtain rfl := Option.some.inj done
    exact keeps_insert key fun _ ↦ inOrder_table .nil
  · next found =>
    obtain rfl := Option.some.inj done
    exact keeps_insert key fun ordered ↦ inOrder_table (ordered.of_find? found)
  · nomatch done

theorem keeps_openAnother (key : String) : Keeps (openAnother key) := by
  intro entries changed done
  unfold openAnother at done
  split at done
  · obtain rfl := Option.some.inj done
    exact keeps_insert key fun _ ↦ inOrder_tables
  · obtain rfl := Option.some.inj done
    exact keeps_insert key fun _ ↦ inOrder_tables
  · nomatch done

end Entries

/-- What every step of a fold keeps holds at its end. -/
private theorem of_foldlM {σ β : Type} {invariant : σ → Prop} {each : β → Prop}
    {step : σ → β → Option σ}
    (keeps : ∀ {before item after}, invariant before → each item →
      step before item = some after → invariant after)
    {items : List β} {first last : σ} (holds : invariant first) (all : ∀ item ∈ items, each item)
    (done : items.foldlM step first = some last) : invariant last := by
  induction items generalizing first with
  | nil => exact Option.some.inj done ▸ holds
  | cons item rest ih =>
    rw [List.foldlM_cons] at done
    obtain ⟨middle, taken, later⟩ := Option.bind_eq_some_iff.mp done
    have next := keeps holds (all item List.mem_cons_self) taken
    exact ih next (fun other member ↦ all other (List.mem_cons_of_mem item member)) later

/-- A pair takes over the order of its value. -/
theorem gives_keyValue {value : Scan Node} (each : Scan.Gives value Node.InOrder) :
    Scan.Gives (keyValue value) fun pair ↦ pair.value.InOrder := by
  unfold keyValue
  apply Scan.gives_bind
  rintro ⟨path, key⟩
  apply Scan.gives_bind
  intro _
  apply Scan.gives_bind
  intro _
  exact each.bind fun node ordered ↦ Scan.gives_pure ordered

/-- Tables in braces are in order. -/
theorem gives_inlineTable {value : Scan Node} (each : Scan.Gives value Node.InOrder) :
    Scan.Gives (inlineTable value) Node.InOrder := by
  unfold inlineTable
  apply Scan.gives_bind
  intro _
  have item : Scan.Gives (do
      let pair ← keyValue value
      blanks
      return pair) fun pair ↦ pair.value.InOrder :=
    (gives_keyValue each).bind fun pair ordered ↦ Scan.gives_bind fun _ ↦ Scan.gives_pure ordered
  refine (item.separated _).optional.bind fun pairs? ordered ↦ ?_
  apply Scan.gives_bind
  intro _
  apply Scan.gives_bind
  intro _
  dsimp only
  split
  · next entries done =>
    have all : ∀ pair ∈ pairs?.getD [], pair.value.InOrder := by
      cases pairs? with
      | none => exact List.forall_mem_nil _
      | some pairs => exact ordered pairs rfl
    have inOrder : Entries.InOrder entries :=
      of_foldlM (fun before inner put ↦ (Entries.keeps_put inner _ _ put).2 before)
        Entries.inOrder_nil all done
    apply Scan.gives_pure
    rintro _ _ ⟨⟩
    exact inOrder.sorted
  · exact Scan.gives_failure

/-- Numbers and dates are in order. -/
private theorem gives_plain : Scan.Gives ((do
      dateTime
      return .moment) <|> (do
      decimal
      return .decimal) <|> (.integer <$> integer)) Node.InOrder := by
  refine .orElse (Scan.gives_bind fun _ ↦ Scan.gives_pure nofun)
    (.orElse (Scan.gives_bind fun _ ↦ Scan.gives_pure nofun) ?_)
  exact Scan.Gives.map ((Scan.gives_true integer).imp fun _ _ ↦ nofun)

private theorem gives_array (value : Scan Node) : Scan.Gives (array value) Node.InOrder := by
  unfold array
  refine Scan.gives_bind fun _ ↦ Scan.gives_bind fun _ ↦ Scan.gives_bind fun _ ↦
    Scan.gives_bind fun _ ↦ Scan.gives_pure nofun

/-- Every value is in order. -/
theorem gives_value (depth : Nat) : Scan.Gives (value depth) Node.InOrder := by
  unfold value
  refine Scan.gives_bind fun next ↦ ?_
  split
  · exact Scan.Gives.map ((Scan.gives_true _).imp fun _ _ ↦ nofun)
  · exact Scan.Gives.map ((Scan.gives_true _).imp fun _ _ ↦ nofun)
  · exact Scan.gives_bind fun _ ↦ Scan.gives_pure nofun
  · exact Scan.gives_bind fun _ ↦ Scan.gives_pure nofun
  · cases depth with
    | zero => exact Scan.gives_failure
    | succ depth => exact gives_array (value depth)
  · cases depth with
    | zero => exact Scan.gives_failure
    | succ depth => exact gives_inlineTable (gives_value depth)
  · exact gives_plain

/-- If the statement is a pair, its value is in order. -/
def Statement.InOrder : Statement → Prop
  | .pair said => said.value.InOrder
  | _ => True

private theorem gives_header : Scan.Gives header Statement.InOrder := by
  unfold header
  refine Scan.gives_bind fun shared ↦ ?_
  split
  · exact Scan.gives_bind fun _ ↦ Scan.gives_bind fun _ ↦ Scan.gives_bind fun _ ↦
      Scan.gives_bind fun _ ↦ Scan.gives_pure trivial
  · exact Scan.gives_bind fun _ ↦ Scan.gives_bind fun _ ↦ Scan.gives_bind fun _ ↦
      Scan.gives_bind fun _ ↦ Scan.gives_pure trivial

private theorem gives_line :
    Scan.Gives line fun found ↦ ∀ statement ∈ found, statement.InOrder := by
  unfold line
  refine Scan.gives_bind fun _ ↦ Scan.gives_bind fun next ↦ ?_
  split
  · exact Scan.gives_failure
  · exact Scan.gives_bind fun _ ↦ Scan.gives_bind fun _ ↦ Scan.gives_pure nofun
  · exact Scan.gives_bind fun _ ↦ Scan.gives_pure nofun
  · exact Scan.gives_bind fun _ ↦ Scan.gives_pure nofun
  · apply Scan.Gives.map
    exact gives_header.imp fun statement ordered _ same ↦ Option.some.inj same ▸ ordered
  · exact (gives_keyValue (gives_value _)).bind fun pair ordered ↦ Scan.gives_bind fun _ ↦
      Scan.gives_pure fun _ same ↦ Option.some.inj same ▸ ordered

private theorem gives_statements :
    Scan.Gives statements fun found ↦ ∀ statement ∈ found, statement.InOrder := by
  unfold statements
  refine Scan.gives_bind fun _ ↦ gives_line.many.bind fun lines ordered ↦
    Scan.gives_bind fun _ ↦ Scan.gives_bind fun _ ↦ Scan.gives_pure fun statement member ↦ ?_
  obtain ⟨found, among, same⟩ := List.mem_filterMap.mp member
  exact ordered found among statement same

/-- A statement leaves a document in order. -/
private theorem inOrder_add {builder next : Builder} {statement : Statement}
    (ordered : builder.entries.InOrder) (inner : statement.InOrder)
    (added : builder.add statement = some next) : next.entries.InOrder := by
  cases statement with
  | header path key =>
    obtain ⟨entries, changed, same⟩ := Option.bind_eq_some_iff.mp added
    obtain rfl := Option.some.inj same
    exact (((Entries.keeps_openTable key).change path) changed).2 ordered
  | sharedHeader path key =>
    obtain ⟨entries, changed, same⟩ := Option.bind_eq_some_iff.mp added
    obtain rfl := Option.some.inj same
    exact (((Entries.keeps_openAnother key).change path) changed).2 ordered
  | pair said =>
    obtain ⟨entries, changed, same⟩ := Option.bind_eq_some_iff.mp added
    obtain rfl := Option.some.inj same
    exact (((Entries.keeps_put inner said.key said.path).change builder.current) changed).2 ordered

theorem entrySettings_eq_map (entries : Entries) :
    entrySettings entries = entries.map fun pair ↦ (pair.1, pair.2.setting) := by
  induction entries with
  | nil => rw [entrySettings, List.map_nil]
  | cons pair rest ih => rw [entrySettings, ih, List.map_cons]

private theorem sorted_entrySettings {entries : Entries} (sorted : Sorted entries) :
    Sorted (entrySettings entries) := by
  rw [entrySettings_eq_map]
  exact List.pairwise_map.mpr sorted

/-- What stands for a value in order is in order. -/
private theorem inOrder_setting {node : Node} (ordered : node.InOrder) : node.setting.InOrder := by
  intro entries same
  cases node with
  | table origin inner =>
    rw [Node.setting] at same
    obtain rfl := Setting.table.inj same
    exact sorted_entrySettings (ordered origin inner rfl)
  | moment =>
    rw [Node.setting] at same
    obtain rfl := Setting.table.inj same
    exact List.pairwise_singleton _ _
  | text | boolean | integer | decimal | array | tables =>
    rw [Node.setting] at same
    nomatch same

/-- What a document describes is in order. -/
theorem layer_parse? {text : String} {entries : List (String × Setting)}
    (parsed : parse? text = some entries) : Layer entries := by
  obtain ⟨found, taken, later⟩ := Option.bind_eq_some_iff.mp parsed
  obtain ⟨built, done, same⟩ := Option.bind_eq_some_iff.mp later
  obtain rfl := Option.some.inj same
  have ordered : built.entries.InOrder :=
    of_foldlM inOrder_add Entries.inOrder_nil (gives_statements.whole? taken) done
  refine ⟨sorted_entrySettings ordered.sorted, fun pair member ↦ ?_⟩
  rw [entrySettings_eq_map] at member
  obtain ⟨entry, among, rfl⟩ := List.mem_map.mp member
  exact inOrder_setting (ordered.inner entry among)

end Toml

end DebugProbe
