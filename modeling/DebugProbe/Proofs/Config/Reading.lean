import DebugProbe.Config.Read
import DebugProbe.Proofs.Config.Dictionary
import Mathlib.Data.List.Zip

/-!
# Reading tables and sections

What a list of fields makes of a table, whatever the fields are: reading succeeds exactly if every
key is that of a field and every value can be read, and then each field has what its key says, or
what it had before if there is no such key.
-/

namespace DebugProbe

namespace Setting

/-- The pairs of a section. The items of a list belong to the keys in their order; items without a
key do not count. -/
def pairs? (keys : List String) : Setting → Option (List (String × Setting))
  | .table entries => some entries
  | .array values => some (keys.zip values)
  | _ => none

/-- The value of a field in a section. -/
def field? (keys : List String) (key : String) (setting : Setting) : Option Setting :=
  (setting.pairs? keys).bind (Dictionary.find? key)

private theorem map_fst_zip_sublist (keys : List String) (values : List Setting) :
    List.Sublist ((keys.zip values).map Prod.fst) keys := by
  induction keys generalizing values with
  | nil => simp
  | cons key rest ih =>
    cases values with
    | nil => simp
    | cons value others => exact (ih others).cons_cons key

/-- The keys of a section in order, or of a list, are distinct. -/
theorem nodup_pairs? {keys : List String} {setting : Setting} {pairs : List (String × Setting)}
    (nodup : keys.Nodup) (ordered : setting.InOrder) (same : setting.pairs? keys = some pairs) :
    (pairs.map Prod.fst).Nodup := by
  cases setting with
  | table entries =>
    obtain rfl := Option.some.inj same
    exact List.pairwise_map.mpr ((ordered _ rfl).imp fun before ↦ ne_of_lt before)
  | array values =>
    obtain rfl := Option.some.inj same
    exact nodup.sublist (map_fst_zip_sublist keys values)
  | text | character | boolean | integer | decimal => nomatch same

end Setting

namespace ConfigField

open Dictionary

variable {σ α : Type}

/-- Reading a value gives the field a value that shows as `shown`, whatever the section held. -/
def Takes (field : ConfigField σ) (setting : Setting) (shown : Option Setting) : Prop :=
  ∀ part, ∃ next, field.assign part setting = .ok next ∧ field.value? next = shown

/-- What a field reads does not depend on what was there, and it leaves the others alone. -/
structure Sound (fields : List (ConfigField σ)) (field : ConfigField σ) : Prop where
  takes : ∀ {part setting next}, field.assign part setting = .ok next →
    field.Takes setting (field.value? next)
  others : ∀ other ∈ fields, other.key ≠ field.key → ∀ {part setting next},
    field.assign part setting = .ok next → other.value? next = other.value? part

/-- Sound fields that are told apart by their keys and together make up a section. -/
structure Lawful (fields : List (ConfigField σ)) : Prop where
  nodup : (fields.map ConfigField.key).Nodup
  sound : ∀ field ∈ fields, Sound fields field
  ext : ∀ {part other : σ}, (∀ field ∈ fields, field.value? part = field.value? other) →
    part = other

/-- What a field has after pairs were read. -/
def Took (field : ConfigField σ) (initial part : σ) : Option Setting → Prop
  | some setting => field.Takes setting (field.value? part)
  | none => field.value? part = field.value? initial

/-- Of what was there before, only the field itself matters. -/
theorem took_congr {field : ConfigField σ} {initial other part : σ} {setting? : Option Setting}
    (same : field.value? initial = field.value? other) :
    field.Took initial part setting? ↔ field.Took other part setting? := by
  cases setting? with
  | none => simp [Took, same]
  | some setting => rfl

section

variable {fields : List (ConfigField σ)} {field : ConfigField σ} {initial part : σ}
  {key : String} {value : Setting} {rest : List (String × Setting)}

theorem within_eq_ok_iff {key : String} {result : ConfigResult α} {value : α} :
    Setting.within key result = .ok value ↔ result = .ok value := by
  cases result with
  | ok found => exact Iff.rfl
  | error error => exact ⟨nofun, nofun⟩

theorem bind_eq_ok_iff {β : Type} {result : ConfigResult α} {next : α → ConfigResult β}
    {value : β} :
    (result >>= next) = .ok value ↔ ∃ found, result = .ok found ∧ next found = .ok value := by
  cases result with
  | ok found => simp [bind, Except.bind]
  | error error => simp [bind, Except.bind]

theorem map_eq_ok_iff {β : Type} {result : ConfigResult α} {f : α → β} {value : β} :
    f <$> result = .ok value ↔ ∃ found, result = .ok found ∧ f found = value := by
  cases result with
  | ok found => simp [Functor.map, Except.map]
  | error error => simp [Functor.map, Except.map]

/-- A field is found by its key. -/
theorem Lawful.find?_key (lawful : Lawful fields) (member : field ∈ fields) :
    fields.find? (·.key = field.key) = some field := by
  have nodup := lawful.nodup
  clear lawful
  induction fields with
  | nil => nomatch member
  | cons head rest ih =>
    rw [List.map_cons, List.nodup_cons] at nodup
    rcases List.mem_cons.mp member with rfl | member
    · simp
    · have ne : head.key ≠ field.key :=
        fun same ↦ nodup.1 (same ▸ List.mem_map_of_mem member)
      simp [ne, ih member nodup.2]

/-- Two fields with the same key are the same. -/
theorem Lawful.eq_of_key (lawful : Lawful fields) {other : ConfigField σ} (member : field ∈ fields)
    (others : other ∈ fields) (same : other.key = field.key) : other = field :=
  Option.some.inj ((lawful.find?_key others).symm.trans (same ▸ lawful.find?_key member))

/-- The first pair is read, and then the others. -/
theorem Lawful.readTable_cons_eq_ok_iff (lawful : Lawful fields) :
    readTable fields initial ((key, value) :: rest) = .ok part ↔
      ∃ field ∈ fields, field.key = key ∧ ∃ next, field.assign initial value = .ok next ∧
        readTable fields next rest = .ok part := by
  rw [readTable, bind_eq_ok_iff]
  simp only [within_eq_ok_iff]
  constructor
  · rintro ⟨next, read, later⟩
    cases found : fields.find? (·.key = key) with
    | none => simp [found] at read
    | some field =>
      have same : field.key = key := by simpa using List.find?_some found
      exact ⟨field, List.mem_of_find?_eq_some found, same, next, by simpa [found] using read, later⟩
  · rintro ⟨field, member, rfl, next, read, later⟩
    exact ⟨next, by simpa [lawful.find?_key member] using read, later⟩

/-- Reading a table succeeds exactly if every key is that of a field and every value can be read;
fields without a key keep what they have. -/
theorem Lawful.readTable_eq_ok_iff (lawful : Lawful fields) {entries : List (String × Setting)}
    (nodup : (entries.map Prod.fst).Nodup) :
    readTable fields initial entries = .ok part ↔
      (∀ pair ∈ entries, pair.1 ∈ fields.map ConfigField.key) ∧
        ∀ field ∈ fields, field.Took initial part (find? field.key entries) := by
  -- No later pair has the key of the first one, so what the first one gave its field stays.
  induction entries generalizing initial with
  | nil =>
    have nothing : readTable fields initial [] = .ok initial := rfl
    simp only [nothing, Except.ok.injEq, find?_nil, Took]
    constructor
    · rintro rfl
      exact ⟨List.forall_mem_nil _, fun field _ ↦ rfl⟩
    · rintro ⟨-, same⟩
      exact (lawful.ext same).symm
  | cons pair rest ih =>
    obtain ⟨key, value⟩ := pair
    rw [List.map_cons, List.nodup_cons] at nodup
    have fresh : find? key rest = none := by
      cases found : find? key rest with
      | none => rfl
      | some other => exact absurd (List.mem_map_of_mem (mem_of_find? found)) nodup.1
    rw [lawful.readTable_cons_eq_ok_iff]
    simp only [ih nodup.2, List.forall_mem_cons, find?_cons]
    constructor
    · rintro ⟨field, member, rfl, next, read, known, took⟩
      refine ⟨⟨List.mem_map_of_mem member, known⟩, fun other others ↦ ?_⟩
      by_cases same : field.key = other.key
      · obtain rfl := lawful.eq_of_key member others same.symm
        have kept : other.value? part = other.value? next := by
          simpa [fresh, Took] using took other others
        simp only [if_true, Took, kept]
        exact (lawful.sound other member).takes read
      · rw [if_neg same]
        have kept := (lawful.sound field member).others other others (Ne.symm same) read
        exact (took_congr kept).mp (took other others)
    · rintro ⟨⟨among, known⟩, took⟩
      obtain ⟨field, member, rfl⟩ := List.mem_map.mp among
      have taken : field.Takes value (field.value? part) := by simpa [Took] using took field member
      obtain ⟨next, read, shown⟩ := taken initial
      refine ⟨field, member, rfl, next, read, known, fun other others ↦ ?_⟩
      by_cases same : field.key = other.key
      · obtain rfl := lawful.eq_of_key member others same.symm
        rw [fresh]
        exact shown.symm
      · have before := took other others
        rw [if_neg same] at before
        have kept := (lawful.sound field member).others other others (Ne.symm same) read
        exact (took_congr kept).mpr before

/-- Reading a list is reading a table in which the items have the keys of the fields. -/
theorem Lawful.readItems_eq_ok_iff (lawful : Lawful fields) {chosen : List (ConfigField σ)}
    (sub : chosen ⊆ fields) {values : List Setting} {position : Nat} :
    readItems initial position chosen values = .ok part ↔
      readTable fields initial ((chosen.map ConfigField.key).zip values) = .ok part := by
  induction chosen generalizing initial position values with
  | nil => simp [readItems, readTable]
  | cons field others ih =>
    cases values with
    | nil => simp [readItems, readTable]
    | cons value rest =>
      obtain ⟨member, sub⟩ := List.cons_subset.mp sub
      rw [readItems, bind_eq_ok_iff, List.map_cons, List.zip_cons_cons,
        lawful.readTable_cons_eq_ok_iff]
      simp only [within_eq_ok_iff, ih sub]
      constructor
      · rintro ⟨next, read, later⟩
        exact ⟨field, member, rfl, next, read, later⟩
      · rintro ⟨other, among, same, next, read, later⟩
        obtain rfl := lawful.eq_of_key member among same
        exact ⟨next, read, later⟩

/-- Reading a section is reading its pairs. -/
theorem Lawful.readSection_eq_ok_iff (lawful : Lawful fields) {setting : Setting} :
    readSection fields initial setting = .ok part ↔
      ∃ pairs, setting.pairs? (fields.map ConfigField.key) = some pairs ∧
        readTable fields initial pairs = .ok part := by
  cases setting with
  | table entries => simp [readSection, Setting.pairs?]
  | array values => simp [readSection, Setting.pairs?, lawful.readItems_eq_ok_iff fun _ ↦ id]
  | text | character | boolean | integer | decimal => simp [readSection, Setting.pairs?]

/-- A field that is set is written in front of the others. -/
private theorem find?_writeTable_cons (head : ConfigField σ) (rest : List (ConfigField σ))
    (part : σ) :
    find? key (writeTable (head :: rest) part) =
      if head.key = key then (head.value? part).or (find? key (writeTable rest part))
      else find? key (writeTable rest part) := by
  cases shown : head.value? part with
  | none => simp [writeTable, values, shown]
  | some value => simp [writeTable, values, shown]

private theorem find?_writeTable_of_notMem (unknown : key ∉ fields.map ConfigField.key) :
    find? key (writeTable fields part) = none := by
  induction fields with
  | nil => rfl
  | cons head rest ih =>
    rw [List.map_cons, List.mem_cons, not_or] at unknown
    rw [find?_writeTable_cons, if_neg (Ne.symm unknown.1), ih unknown.2]

/-- What was written is found. -/
theorem Lawful.find?_writeTable (lawful : Lawful fields) (member : field ∈ fields) :
    find? field.key (writeTable fields part) = field.value? part := by
  have nodup := lawful.nodup
  clear lawful
  induction fields with
  | nil => nomatch member
  | cons head rest ih =>
    rw [List.map_cons, List.nodup_cons] at nodup
    rw [find?_writeTable_cons]
    rcases List.mem_cons.mp member with rfl | member
    · simp [find?_writeTable_of_notMem nodup.1]
    · have ne : head.key ≠ field.key :=
        fun same ↦ nodup.1 (same ▸ List.mem_map_of_mem member)
      rw [if_neg ne, ih member nodup.2]

/-- Sections that are written alike are the same. -/
theorem Lawful.writeTable_inj (lawful : Lawful fields) {other : σ} :
    writeTable fields part = writeTable fields other ↔ part = other := by
  constructor
  · intro same
    apply lawful.ext
    intro field member
    rw [← lawful.find?_writeTable member, ← lawful.find?_writeTable member, same]
  · rintro rfl
    rfl

end

section

variable {item : Setting → ConfigResult α} {store : σ → α → σ} {value? : σ → Option Setting}
  {show? : α → Option Setting} {key : String} {setting : Setting} {shown : Option Setting}

/-- What the field that is read by `item` takes. -/
theorem takes_of_iff (stored : ∀ part found, value? (store part found) = show? found) (part : σ) :
    (ConfigField.of key item store value?).Takes setting shown ↔
      ∃ found, item setting = .ok found ∧ show? found = shown := by
  simp only [Takes, ConfigField.of, map_eq_ok_iff]
  constructor
  · intro takes
    obtain ⟨_, ⟨found, read, rfl⟩, same⟩ := takes part
    exact ⟨found, read, by rw [← same, stored]⟩
  · rintro ⟨found, read, rfl⟩ part
    exact ⟨store part found, ⟨found, read, rfl⟩, stored part found⟩

/-- A field that finds what it stored and stores nothing else is sound. -/
theorem sound_of {fields : List (ConfigField σ)}
    (stored : ∀ part found, value? (store part found) = show? found)
    (kept : ∀ other ∈ fields, other.key ≠ key → ∀ part found,
      other.value? (store part found) = other.value? part) :
    Sound fields (ConfigField.of key item store value?) where
  takes {part setting next} read := by
    obtain ⟨found, accepted, rfl⟩ := map_eq_ok_iff.mp read
    exact (takes_of_iff stored part).mpr ⟨found, accepted, (stored part found).symm⟩
  others other member ne part setting next read := by
    obtain ⟨found, -, rfl⟩ := map_eq_ok_iff.mp read
    exact kept other member ne part found

end

end ConfigField

end DebugProbe
