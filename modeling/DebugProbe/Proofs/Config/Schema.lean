import DebugProbe.Proofs.Config.Kinds

/-!
# The schema of a configuration

The keys of the four sections and of their fields, with what each field may be, and that the fields
read and write accordingly.
-/

namespace DebugProbe

namespace ConfigField

variable {σ α : Type}

/-- A sound field that reads values of a kind. -/
structure Keeps (fields : List (ConfigField σ)) (kind : FieldKind) (field : ConfigField σ) :
    Prop where
  takes_iff : ∀ setting shown, field.Takes setting shown ↔ kind.Gives setting shown
  sound : Sound fields field

/-- The fields of a section are those of its schema, and each is of its kind. -/
structure Described (fields : List (ConfigField σ)) (kinds : List (String × FieldKind)) : Prop where
  nodup : (kinds.map Prod.fst).Nodup
  each : List.Forall₂ (fun field entry ↦ field.key = entry.1 ∧ Keeps fields entry.2 field)
    fields kinds
  ext : ∀ {part other : σ}, (∀ field ∈ fields, field.value? part = field.value? other) →
    part = other

/-- A field that is read by its kind, finds what it stored and stores nothing else. -/
theorem keeps_of {item : Setting → ConfigResult α} {store : σ → α → σ} {value? : σ → Option Setting}
    {show? : α → Option Setting} {key : String} {fields : List (ConfigField σ)} {kind : FieldKind}
    (part : σ) (readBy : kind.ReadBy item show?)
    (stored : ∀ part found, value? (store part found) = show? found)
    (kept : ∀ other ∈ fields, other.key ≠ key → ∀ part found,
      other.value? (store part found) = other.value? part) :
    Keeps fields kind (ConfigField.of key item store value?) where
  takes_iff setting shown := (takes_of_iff stored part).trans (readBy setting shown)
  sound := sound_of stored kept

private theorem exists_of_mem_left {β : Type} {R : α → β → Prop} {first : List α} {second : List β}
    (related : List.Forall₂ R first second) {a : α} (member : a ∈ first) : ∃ b ∈ second, R a b := by
  induction related with
  | nil => nomatch member
  | cons head _ ih =>
    rcases List.mem_cons.mp member with rfl | member
    · exact ⟨_, List.mem_cons_self, head⟩
    · obtain ⟨b, later, found⟩ := ih member
      exact ⟨b, List.mem_cons_of_mem _ later, found⟩

namespace Described

variable {fields : List (ConfigField σ)} {kinds : List (String × FieldKind)}

theorem map_key (described : Described fields kinds) :
    fields.map ConfigField.key = kinds.map Prod.fst := by
  rw [← List.forall₂_eq_eq_eq, List.forall₂_map_left_iff, List.forall₂_map_right_iff]
  exact described.each.imp fun _ _ ↦ And.left

/-- Each field is in the schema. -/
theorem kind (described : Described fields kinds) {field : ConfigField σ}
    (member : field ∈ fields) :
    ∃ kind, (field.key, kind) ∈ kinds ∧ Keeps fields kind field := by
  obtain ⟨entry, among, same, keeps⟩ := exists_of_mem_left described.each member
  exact ⟨entry.2, same ▸ among, keeps⟩

/-- Each key of the schema is that of a field. -/
theorem field (described : Described fields kinds) {key : String} {kind : FieldKind}
    (member : (key, kind) ∈ kinds) : ∃ field ∈ fields, field.key = key ∧ Keeps fields kind field :=
  exists_of_mem_left described.each.flip member

theorem lawful (described : Described fields kinds) : Lawful fields where
  nodup := described.map_key ▸ described.nodup
  sound _ member := (described.kind member).elim fun _ found ↦ found.2.sound
  ext := described.ext

end Described

end ConfigField

/-- What the fields of the section on probes may be. -/
def ProbeConfig.kinds : List (String × FieldKind) := [
  ("selector", .string),
  ("timeout_ms", .natural UInt64.size),
  ("max_clock_hz", .natural UInt32.size)]

/-- What the fields of the section on sessions may be. -/
def SessionConfig.kinds : List (String × FieldKind) := [
  ("protocol", .protocol),
  ("clock_hz", .natural UInt32.size),
  ("connect_attempts", .natural UInt64.size),
  ("allow_protocol_fallback", .truth),
  ("target_sel", .natural UInt32.size),
  ("power_up", .truth),
  ("power_up_timeout_ms", .natural UInt64.size),
  ("jtag_ir_lengths", .lengths),
  ("jtag_index", .natural UInt8.size),
  ("mem_ap", .natural UInt8.size),
  ("auto_clear_sticky", .truth)]

/-- What the fields of the section on transfers may be. -/
def TransferConfig.kinds : List (String × FieldKind) := [
  ("wait_retry_limit", .natural UInt64.size),
  ("idle_cycles", .natural UInt8.size),
  ("probe_wait_retry", .natural UInt16.size),
  ("match_retry", .natural UInt16.size)]

/-- What the fields of the section on firmware may be. -/
def FirmwareConfig.kinds : List (String × FieldKind) := [
  ("chunk_size", .natural UInt64.size),
  ("handshake_attempts", .natural UInt64.size),
  ("handshake_delay_ms", .natural UInt64.size)]

open ConfigField FieldKind

private theorem key_inj {first second : WireProtocol} :
    first.key = second.key ↔ first = second := by
  cases first <;> cases second <;> decide

private theorem map_text_inj {first second : Option String} :
    first.map Setting.text = second.map Setting.text ↔ first = second :=
  Option.map_inj_right fun _ _ ↦ Setting.text.inj

private theorem map_number_inj {first second : Option UInt32} :
    first.map (fun value ↦ Setting.integer value.toNat) =
      second.map (fun value ↦ Setting.integer value.toNat) ↔ first = second :=
  Option.map_inj_right fun _ _ same ↦
    UInt32.toNat_inj.mp (Int.ofNat.inj (Setting.integer.inj same))

private theorem map_integer_inj {first second : List UInt8} :
    first.map (fun value ↦ Setting.integer value.toNat) =
      second.map (fun value ↦ Setting.integer value.toNat) ↔ first = second :=
  List.map_inj_right fun _ _ same ↦
    UInt8.toNat_inj.mp (Int.ofNat.inj (Setting.integer.inj same))

theorem ProbeConfig.described : Described ProbeConfig.fields ProbeConfig.kinds where
  nodup := by decide
  each := by
    refine .cons ⟨rfl, keeps_of {} string_readBy (fun _ _ ↦ rfl) ?_⟩ <|
      .cons ⟨rfl, keeps_of {} count_readBy (fun _ _ ↦ rfl) ?_⟩ <|
      .cons ⟨rfl, keeps_of {} uint32_readBy (fun _ _ ↦ rfl) ?_⟩ .nil
    all_goals simp [ProbeConfig.fields, ConfigField.of]
  ext {part other} same := by
    cases part
    cases other
    simpa [ProbeConfig.fields, ConfigField.of, Int.natCast_inj, UInt32.toNat_inj, map_text_inj]
      using same

theorem FirmwareConfig.described : Described FirmwareConfig.fields FirmwareConfig.kinds where
  nodup := by decide
  each := by
    refine .cons ⟨rfl, keeps_of {} count_readBy (fun _ _ ↦ rfl) ?_⟩ <|
      .cons ⟨rfl, keeps_of {} count_readBy (fun _ _ ↦ rfl) ?_⟩ <|
      .cons ⟨rfl, keeps_of {} count_readBy (fun _ _ ↦ rfl) ?_⟩ .nil
    all_goals simp [FirmwareConfig.fields, ConfigField.of]
  ext {part other} same := by
    cases part
    cases other
    simpa [FirmwareConfig.fields, ConfigField.of, Int.natCast_inj] using same

theorem TransferConfig.described : Described TransferConfig.fields TransferConfig.kinds where
  nodup := by decide
  each := by
    refine .cons ⟨rfl, keeps_of {} count_readBy (fun _ _ ↦ rfl) ?_⟩ <|
      .cons ⟨rfl, keeps_of {} uint8_readBy (fun _ _ ↦ rfl) ?_⟩ <|
      .cons ⟨rfl, keeps_of {} uint16_readBy (fun _ _ ↦ rfl) ?_⟩ <|
      .cons ⟨rfl, keeps_of {} uint16_readBy (fun _ _ ↦ rfl) ?_⟩ .nil
    all_goals simp [TransferConfig.fields, ConfigField.of]
  ext {part other} same := by
    cases part
    cases other
    simpa [TransferConfig.fields, ConfigField.of, Int.natCast_inj, UInt8.toNat_inj,
      UInt16.toNat_inj] using same

theorem SessionConfig.described : Described SessionConfig.fields SessionConfig.kinds where
  nodup := by decide
  each := by
    refine .cons ⟨rfl, keeps_of {} protocol_readBy (fun _ _ ↦ rfl) ?_⟩ <|
      .cons ⟨rfl, keeps_of {} uint32_readBy (fun _ _ ↦ rfl) ?_⟩ <|
      .cons ⟨rfl, keeps_of {} count_readBy (fun _ _ ↦ rfl) ?_⟩ <|
      .cons ⟨rfl, keeps_of {} truth_readBy (fun _ _ ↦ rfl) ?_⟩ <|
      .cons ⟨rfl, keeps_of {} uint32_readBy (fun _ _ ↦ rfl) ?_⟩ <|
      .cons ⟨rfl, keeps_of {} truth_readBy (fun _ _ ↦ rfl) ?_⟩ <|
      .cons ⟨rfl, keeps_of {} count_readBy (fun _ _ ↦ rfl) ?_⟩ <|
      .cons ⟨rfl, keeps_of {} lengths_readBy (fun _ _ ↦ rfl) ?_⟩ <|
      .cons ⟨rfl, keeps_of {} uint8_readBy (fun _ _ ↦ rfl) ?_⟩ <|
      .cons ⟨rfl, keeps_of {} uint8_readBy (fun _ _ ↦ rfl) ?_⟩ <|
      .cons ⟨rfl, keeps_of {} truth_readBy (fun _ _ ↦ rfl) ?_⟩ .nil
    all_goals simp [SessionConfig.fields, ConfigField.of]
  ext {part other} same := by
    cases part
    cases other
    simpa [SessionConfig.fields, ConfigField.of, Int.natCast_inj, UInt8.toNat_inj, UInt32.toNat_inj,
      key_inj, map_number_inj, map_integer_inj] using same

/-- The sections, with their fields. -/
def Config.schema : List (String × List (String × FieldKind)) := [
  ("probe", ProbeConfig.kinds),
  ("session", SessionConfig.kinds),
  ("transfer", TransferConfig.kinds),
  ("firmware", FirmwareConfig.kinds)]

private theorem sound_ofSection {σ τ : Type} {fields : List (ConfigField σ)} {key : String}
    {inner : List (ConfigField τ)} {initial : τ} {store : σ → τ → σ} {part : σ → τ}
    (stored : ∀ whole next, part (store whole next) = next)
    (kept : ∀ other ∈ fields, other.key ≠ key → ∀ whole next,
      other.value? (store whole next) = other.value? whole) :
    Sound fields (ConfigField.ofSection key inner initial store part) :=
  sound_of (fun whole next ↦ congrArg (some ∘ Setting.table ∘ writeTable inner) (stored whole next))
    kept

/-- The sections do not touch each other. -/
theorem Config.lawful : Lawful Config.fields where
  nodup := by decide
  sound := by
    simp only [Config.fields, List.forall_mem_cons]
    refine ⟨sound_ofSection (fun _ _ ↦ rfl) ?_, sound_ofSection (fun _ _ ↦ rfl) ?_,
      sound_ofSection (fun _ _ ↦ rfl) ?_, sound_ofSection (fun _ _ ↦ rfl) ?_, List.forall_mem_nil _⟩
    all_goals simp [ConfigField.ofSection, ConfigField.of]
  ext {part other} same := by
    cases part
    cases other
    simpa [Config.fields, ConfigField.of, ConfigField.ofSection,
      ProbeConfig.described.lawful.writeTable_inj, SessionConfig.described.lawful.writeTable_inj,
      TransferConfig.described.lawful.writeTable_inj,
      FirmwareConfig.described.lawful.writeTable_inj] using same

end DebugProbe
