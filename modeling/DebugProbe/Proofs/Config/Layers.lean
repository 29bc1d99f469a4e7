import DebugProbe.Config.Load
import DebugProbe.Proofs.Config.Schema
import DebugProbe.Proofs.Config.Variables
import DebugProbe.Proofs.Toml.Ordered

/-!
# Layers of the configuration

Each field has the value from the environment, else that from the file, else the built-in one, and
loading succeeds exactly if all keys are known and all these values fit. Tables of a section add up
that way, but a section that is written as a list stands alone: neither does it leave anything below
it in force, nor does anything above it leave it in force.
-/

namespace DebugProbe

open Dictionary

/-- What counts of the two values of a section, the upper one first: a table leaves a table below it
in force, and otherwise the upper one stands alone. -/
def inForce (under above : Option Setting) : List Setting :=
  match above, under with
  | none, under => under.toList
  | some (.table above), some (.table under) => [.table above, .table under]
  | some above, _ => [above]

/-- A field has the value that it is given, which has to fit, or else the built-in one. -/
def FieldKind.Follows (kind : FieldKind) (setting? shown builtin : Option Setting) : Prop :=
  match setting? with
  | some setting => kind.Gives setting shown
  | none => shown = builtin

/-- A section that comes from some settings, the upper ones first: each of them has to be a section
with known keys, and each field follows the first of them that gives it a value. -/
@[mk_iff]
structure Settled (kinds : List (String × FieldKind)) (settings : List Setting)
    (value? builtin? : String → Option Setting) : Prop where
  known : ∀ setting ∈ settings, ∃ pairs, setting.pairs? (kinds.map Prod.fst) = some pairs ∧
    ∀ pair ∈ pairs, pair.1 ∈ kinds.map Prod.fst
  fields : ∀ key kind, (key, kind) ∈ kinds →
    kind.Follows (settings.findSome? (Setting.field? (kinds.map Prod.fst) key)) (value? key)
      (builtin? key)

namespace Config

/-- The value of a field, if it is set. -/
def value? (config : Config) (name key : String) : Option Setting :=
  (Setting.table config.entries).at? [name, key]

/-- A configuration that comes from two layers. -/
@[mk_iff]
structure Layered (under above : List (String × Setting)) (config : Config) : Prop where
  known : ∀ pair ∈ under ++ above, pair.1 ∈ schema.map Prod.fst
  sections : ∀ entry ∈ schema,
    Settled entry.2 (inForce (find? entry.1 under) (find? entry.1 above)) (config.value? entry.1)
      (({} : Config).value? entry.1)

end Config

namespace ConfigField

variable {σ : Type} {fields : List (ConfigField σ)} {kinds : List (String × FieldKind)}
  {initial part : σ}

/-- What a described field took is what it was given, or what it had. -/
private theorem took_iff {field : ConfigField σ} {kind : FieldKind}
    (keeps : Keeps fields kind field) {setting? : Option Setting} :
    field.Took initial part setting? ↔
      kind.Follows setting? (field.value? part) (field.value? initial) := by
  cases setting? with
  | none => rfl
  | some setting => exact keeps.takes_iff setting _

private theorem findSome?_field? {keys : List String} {setting : Setting}
    {pairs : List (String × Setting)} (same : setting.pairs? keys = some pairs) (key : String) :
    [setting].findSome? (Setting.field? keys key) = find? key pairs := by
  cases found : find? key pairs <;> simp [Setting.field?, same, found]

/-- A section is read if it is settled by what is read. -/
theorem Described.readSection_eq_ok_iff (described : Described fields kinds) {setting : Setting}
    (ordered : setting.InOrder) :
    readSection fields initial setting = .ok part ↔
      Settled kinds [setting] (find? · (writeTable fields part))
        (find? · (writeTable fields initial)) := by
  have lawful := described.lawful
  rw [lawful.readSection_eq_ok_iff, described.map_key]
  constructor
  · rintro ⟨pairs, same, read⟩
    rw [lawful.readTable_eq_ok_iff (Setting.nodup_pairs? described.nodup ordered same),
      described.map_key] at read
    refine ⟨List.forall_mem_singleton.mpr ⟨pairs, same, read.1⟩, fun key kind member ↦ ?_⟩
    obtain ⟨field, among, rfl, keeps⟩ := described.field member
    rw [findSome?_field? same, lawful.find?_writeTable among, lawful.find?_writeTable among]
    exact (took_iff keeps).mp (read.2 field among)
  · intro settled
    obtain ⟨pairs, same, known⟩ := settled.known setting (List.mem_singleton_self setting)
    refine ⟨pairs, same, ?_⟩
    rw [lawful.readTable_eq_ok_iff (Setting.nodup_pairs? described.nodup ordered same),
      described.map_key]
    refine ⟨known, fun field among ↦ ?_⟩
    obtain ⟨kind, member, keeps⟩ := described.kind among
    have given := settled.fields field.key kind member
    rw [findSome?_field? same, lawful.find?_writeTable among,
      lawful.find?_writeTable among] at given
    exact (took_iff keeps).mpr given

/-- Without any setting a section is as it was. -/
theorem Described.settled_nil_iff (described : Described fields kinds) :
    Settled kinds [] (find? · (writeTable fields part)) (find? · (writeTable fields initial)) ↔
      part = initial := by
  constructor
  · intro settled
    apply described.ext
    intro field among
    obtain ⟨kind, member, -⟩ := described.kind among
    have given := settled.fields field.key kind member
    simpa [described.lawful.find?_writeTable among, FieldKind.Follows] using given
  · rintro rfl
    exact ⟨List.forall_mem_nil _, fun _ _ _ ↦ rfl⟩

end ConfigField

/-- Nothing but a table can be put over a table to make another value than itself, and no field
takes a table. -/
private theorem gives_onto_iff {kind : FieldKind} {under : Option Setting} {above : Setting}
    {shown : Option Setting} :
    kind.Gives (Setting.onto under above) shown ↔ kind.Gives above shown := by
  cases under with
  | none => rfl
  | some lower =>
    cases above with
    | table pairs =>
      have refused (entries : List (String × Setting)) : ¬kind.Gives (.table entries) shown := by
        cases kind <;> simp [FieldKind.Gives, FieldKind.fits, Setting.isBelow]
      cases lower <;> simp [Setting.onto, Setting.merge, refused]
    | text | character | boolean | integer | decimal | array =>
      cases lower <;> simp [Setting.onto, Setting.merge]

/-- A table put over a table settles a section like the two of them. -/
theorem settled_mergeEntries_iff {kinds : List (String × FieldKind)}
    {under above : List (String × Setting)} (sorted : Sorted above)
    {value? builtin? : String → Option Setting} :
    Settled kinds [.table (Setting.mergeEntries under above)] value? builtin? ↔
      Settled kinds [.table above, .table under] value? builtin? := by
  rw [settled_iff, settled_iff]
  apply and_congr
  · have known : (∀ pair ∈ Setting.mergeEntries under above, pair.1 ∈ kinds.map Prod.fst) ↔ _ :=
      Setting.forall_key_mergeEntries_iff (P := (· ∈ kinds.map Prod.fst)) sorted
    simpa [Setting.pairs?, and_comm] using known
  · refine forall₃_congr fun key kind _ ↦ ?_
    simp only [List.findSome?, Setting.field?, Setting.pairs?, Option.bind_some,
      Setting.find?_mergeEntries sorted]
    cases upper : find? key above with
    | none => rfl
    | some value => exact gives_onto_iff

namespace ConfigField

variable {σ τ : Type} {fields : List (ConfigField σ)} {kinds : List (String × FieldKind)}
  {initial part : σ}

/-- A section that was read, or left as it was if there is nothing to read. -/
def ReadFrom (fields : List (ConfigField σ)) (initial part : σ) : Option Setting → Prop
  | some setting => readSection fields initial setting = .ok part
  | none => part = initial

theorem took_ofSection_iff (lawful : Lawful fields) {key : String} {store : τ → σ → τ}
    {inner : τ → σ} (stored : ∀ whole next, inner (store whole next) = next) {before after : τ}
    (start : inner before = initial) {setting? : Option Setting} :
    (ConfigField.ofSection key fields initial store inner).Took before after setting? ↔
      ReadFrom fields initial (inner after) setting? := by
  cases setting? with
  | none => simp [Took, ReadFrom, ofSection, ConfigField.of, lawful.writeTable_inj, start]
  | some setting =>
    have kept (whole : τ) (next : σ) :
        some (Setting.table (writeTable fields (inner (store whole next)))) =
          some (.table (writeTable fields next)) := by
      rw [stored]
    rw [Took, ofSection, takes_of_iff kept before]
    simp [ReadFrom, ConfigField.of, lawful.writeTable_inj]

/-- The merged values of a section are read if those in force settle it. -/
theorem Described.readFrom_merged_iff (described : Described fields kinds)
    {under above : Option Setting} (below : ∀ setting ∈ under, setting.InOrder)
    (upper : ∀ setting ∈ above, setting.InOrder) :
    ReadFrom fields initial part
        (above.elim under fun setting ↦ some (Setting.onto under setting)) ↔
      Settled kinds (inForce under above) (find? · (writeTable fields part))
        (find? · (writeTable fields initial)) := by
  cases above with
  | none =>
    cases under with
    | none => exact described.settled_nil_iff.symm
    | some setting =>
      rw [Option.elim_none, ReadFrom]
      exact described.readSection_eq_ok_iff (below setting rfl)
  | some setting =>
    have ordered : (Setting.onto under setting).InOrder := .onto below (upper setting rfl)
    rw [Option.elim_some, ReadFrom, described.readSection_eq_ok_iff ordered]
    cases under with
    | none => cases setting <;> rfl
    | some lower =>
      cases setting with
      | table entries =>
        cases lower with
        | table pairs => exact settled_mergeEntries_iff (upper _ rfl entries rfl)
        | text | character | boolean | integer | decimal | array => rfl
      | text | character | boolean | integer | decimal | array => cases lower <;> rfl

end ConfigField

namespace Config

open ConfigField

/-- A configuration is read section by section. -/
private theorem ofEntries_eq_ok_iff {entries : List (String × Setting)} (sorted : Sorted entries)
    {config : Config} :
    ofEntries entries = .ok config ↔
      (∀ pair ∈ entries, pair.1 ∈ schema.map Prod.fst) ∧
        ReadFrom ProbeConfig.fields {} config.probe (find? "probe" entries) ∧
        ReadFrom SessionConfig.fields {} config.session (find? "session" entries) ∧
        ReadFrom TransferConfig.fields {} config.transfer (find? "transfer" entries) ∧
        ReadFrom FirmwareConfig.fields {} config.firmware (find? "firmware" entries) := by
  have nodup : (entries.map Prod.fst).Nodup :=
    List.pairwise_map.mpr (sorted.imp fun before ↦ ne_of_lt before)
  rw [ofEntries, lawful.readTable_eq_ok_iff nodup]
  apply and_congr Iff.rfl
  rw [Config.fields, List.forall_mem_cons, List.forall_mem_cons, List.forall_mem_cons,
    List.forall_mem_singleton]
  exact and_congr (took_ofSection_iff ProbeConfig.described.lawful (fun _ _ ↦ rfl) (by rfl)) <|
    and_congr (took_ofSection_iff SessionConfig.described.lawful (fun _ _ ↦ rfl) (by rfl)) <|
    and_congr (took_ofSection_iff TransferConfig.described.lawful (fun _ _ ↦ rfl) (by rfl)) <|
    took_ofSection_iff FirmwareConfig.described.lawful (fun _ _ ↦ rfl) (by rfl)

/-- The content of a file with some text. -/
def fileOf (text : String) : Bytes := text.toByteArray.data.toList

theorem fileEntries_fileOf (text : String) :
    fileEntries (some (fileOf text)) = documentEntries text := by
  have same : (fileOf text).toByteArray = text.toByteArray := by
    ext1
    simp [fileOf]
  have decoded : String.fromUTF8? (fileOf text).toByteArray = some text := by
    rw [same, String.fromUTF8?, dif_pos text.isValidUTF8]
    rfl
  rw [fileEntries, decoded]

/-- The settings of a file are in order. -/
private theorem layer_fileEntries {file : Option Bytes} {base : List (String × Setting)}
    (read : fileEntries file = .ok base) : Layer base := by
  cases file with
  | none =>
    obtain rfl := Except.ok.inj read
    exact .nil
  | some bytes =>
    rw [fileEntries] at read
    split at read
    · rw [documentEntries] at read
      split at read
      · obtain rfl := Except.ok.inj read
        exact Toml.layer_parse? ‹_›
      · nomatch read
    · nomatch read

private theorem value?_ofSection {σ : Type} {key : String} {fields : List (ConfigField σ)}
    {initial : σ} {store : Config → σ → Config} {part : Config → σ}
    (member : ConfigField.ofSection key fields initial store part ∈ Config.fields)
    (config : Config) :
    config.value? key = (find? · (writeTable fields (part config))) := by
  funext name
  have found : find? key config.entries = some (.table (writeTable fields (part config))) :=
    lawful.find?_writeTable member
  simp [value?, Setting.at?, found]

/-- Merged layers are read if the configuration comes from them. -/
private theorem ofEntries_mergeEntries_iff {under above : List (String × Setting)}
    (below : Layer under) (upper : Layer above) {config : Config} :
    ofEntries (Setting.mergeEntries under above) = .ok config ↔ Layered under above config := by
  have found (key : String) : find? key (Setting.mergeEntries under above) =
      (find? key above).elim (find? key under) fun setting ↦
        some (Setting.onto (find? key under) setting) := by
    rw [Setting.find?_mergeEntries upper.sorted]
    cases find? key above <;> rfl
  have lower (key : String) : ∀ setting ∈ find? key under, setting.InOrder :=
    fun _ given ↦ below.inner _ (mem_of_find? given)
  have higher (key : String) : ∀ setting ∈ find? key above, setting.InOrder :=
    fun _ given ↦ upper.inner _ (mem_of_find? given)
  rw [ofEntries_eq_ok_iff (Setting.sorted_mergeEntries below.sorted above), layered_iff]
  apply and_congr
  · rw [Setting.forall_key_mergeEntries_iff (P := (· ∈ schema.map Prod.fst)) upper.sorted,
      List.forall_mem_append]
  · rw [schema, List.forall_mem_cons, List.forall_mem_cons, List.forall_mem_cons,
      List.forall_mem_singleton, found, found, found, found,
      ProbeConfig.described.readFrom_merged_iff (lower _) (higher _),
      SessionConfig.described.readFrom_merged_iff (lower _) (higher _),
      TransferConfig.described.readFrom_merged_iff (lower _) (higher _),
      FirmwareConfig.described.readFrom_merged_iff (lower _) (higher _)]
    simp only [value?_ofSection (.head _), value?_ofSection (.tail _ (.head _)),
      value?_ofSection (.tail _ (.tail _ (.head _))),
      value?_ofSection (.tail _ (.tail _ (.tail _ (.head _))))]

/-- In the configuration from a file, if there is one, and variables that do not lead to or through
each other's keys, each field has the value that the environment gives, else that of the file, else
the built-in one. Loading succeeds exactly if the file is well formed, all keys are known and all
these values fit. Without variables it reads the text of the file. -/
theorem load_layered {environment : List (String × String)} (apart : Environment.Apart environment)
    (file : Option Bytes) :
    Environment.Holds (Environment.given environment) (.table (Environment.entries environment)) ∧
    (∀ config, load file environment = .ok config ↔
      ∃ base, fileEntries file = .ok base ∧ Layered base (Environment.entries environment) config) ∧
    (Environment.given environment = [] → ∀ bytes text,
      String.fromUTF8? bytes.toByteArray = some text →
      load (some bytes) environment = ofToml text) := by
  refine ⟨Environment.holds_entries apart, fun config ↦ ?_, fun nothing bytes text decoded ↦ ?_⟩
  · rw [load, bind_eq_ok_iff]
    refine exists_congr fun base ↦ and_congr_right fun read ↦ ?_
    exact ofEntries_mergeEntries_iff (layer_fileEntries read)
      (Environment.layer_entries environment)
  · rw [load, fileEntries, decoded, Environment.entries_eq_nil nothing]
    simp [ofToml]

/-- A timeout in the file gives way to one in the environment, and what neither sets is built in. -/
theorem load_layered_timeout :
    Environment.Apart
      [("DAPWIRE_PROBE__TIMEOUT_MS", "500"), ("DAPWIRE_SESSION__POWER_UP", "false")] ∧
    ∃ base, fileEntries (some (fileOf "[probe]\ntimeout_ms = 250\n")) = .ok base ∧
      Layered base (Environment.entries
        [("DAPWIRE_PROBE__TIMEOUT_MS", "500"), ("DAPWIRE_SESSION__POWER_UP", "false")])
        { probe := { timeout := 500 }, session := { powerUp := false } } := by
  have apart : Environment.Apart
      [("DAPWIRE_PROBE__TIMEOUT_MS", "500"), ("DAPWIRE_SESSION__POWER_UP", "false")] := by
    decide +kernel
  refine ⟨apart, ((load_layered apart (some (fileOf _))).2.1 _).mp ?_⟩
  rw [load, fileEntries_fileOf, Environment.entries, List.mergeSort_of_pairwise (by decide +kernel)]
  decide +kernel

/-- A section that the environment gives as a list replaces the table in the file: the attempts in
it are lost, and so is an unknown key. A name with an empty level is passed over, and a dot
separates levels as well. -/
theorem load_list_replaces_table :
    Environment.Apart [("DAPWIRE_FIRMWARE", "[32]")] ∧
    (Setting.table (Environment.entries [("DAPWIRE_FIRMWARE", "[32]")])).at?
      ["firmware", "handshake_attempts"] = none ∧
    load (some (fileOf "[firmware]\nhandshake_attempts = 7\n")) [] =
      .ok { firmware := { handshakeAttempts := 7 } } ∧
    load (some (fileOf "[firmware]\nhandshake_attempts = 7\n")) [("DAPWIRE_FIRMWARE", "[32]")] =
      .ok { firmware := { chunkSize := 32, handshakeAttempts := 10 } } ∧
    load (some (fileOf "[firmware]\nattempts = 7\n")) [("DAPWIRE_FIRMWARE", "[32]")] =
      .ok { firmware := { chunkSize := 32 } } ∧
    load none [("DAPWIRE_PROBE____SPEED", "1")] = .ok {} ∧
    load none [("DAPWIRE_PROBE.TIMEOUT_MS", "5")] = .ok { probe := { timeout := 5 } } := by
  simp only [load, fileEntries_fileOf, Environment.entries, List.mergeSort_singleton,
    List.mergeSort_nil]
  decide +kernel

end Config

end DebugProbe
