import DebugProbe.Proofs.Config.Reading
import Mathlib.Data.Set.List

/-!
# Kinds of fields

What each field of the configuration may be, and that reading a value gives a field that value
exactly if it fits the field.
-/

namespace DebugProbe

/-- What a field may be. -/
inductive FieldKind where
  /-- A number below a limit. -/
  | natural (limit : Nat)
  | truth
  | string
  | protocol
  /-- A list of 8-bit numbers. -/
  | lengths
  deriving DecidableEq, Repr

/-- Whether a value is a number below `limit`. -/
def Setting.isBelow (limit : Nat) : Setting → Bool
  | .integer value => 0 ≤ value && value < limit
  | _ => false

/-- Whether a value has the type of a field and lies in its range. -/
def FieldKind.fits : FieldKind → Setting → Bool
  | .natural limit, setting => setting.isBelow limit
  | .truth, .boolean _ => true
  | .string, .text _ => true
  | .string, .character _ => true
  | .protocol, .text content => (WireProtocol.ofKey? content).isSome
  | .lengths, .array values => values.all (Setting.isBelow UInt8.size)
  | _, _ => false

/-- The value of a field that was given a setting. -/
def Setting.shown : Setting → Setting
  | .character content => .text content.toString
  | setting => setting

/-- A field that is given a value shows it, which has to fit. -/
def FieldKind.Gives (kind : FieldKind) (setting : Setting) (shown : Option Setting) : Prop :=
  kind.fits setting = true ∧ shown = some setting.shown

namespace FieldKind

open ConfigField

variable {α : Type} {limit : Nat} {setting : Setting}

/-- Reading by `item` accepts what fits and keeps it. -/
def ReadBy (kind : FieldKind) (item : Setting → ConfigResult α) (show? : α → Option Setting) :
    Prop :=
  ∀ setting shown, (∃ found, item setting = .ok found ∧ show? found = shown) ↔
    kind.Gives setting shown

theorem natural_eq_ok_iff {value : Nat} :
    Setting.natural limit setting = .ok value ↔ value < limit ∧ setting = .integer value := by
  cases setting with
  | integer number =>
    by_cases inside : 0 ≤ number ∧ number < limit
    · simp only [Setting.natural, inside, and_self, if_true, Except.ok.injEq, Setting.integer.injEq]
      omega
    · simp only [Setting.natural, inside, if_false, reduceCtorEq, Setting.integer.injEq, false_iff]
      omega
  | text | character | boolean | decimal | array | table => simp [Setting.natural]

theorem isBelow_iff : setting.isBelow limit = true ↔ ∃ value < limit, setting = .integer value := by
  cases setting with
  | integer number =>
    simp only [Setting.isBelow, Bool.and_eq_true, decide_eq_true_eq, Setting.integer.injEq]
    constructor
    · intro inside
      exact ⟨number.toNat, by omega, by omega⟩
    · rintro ⟨value, below, rfl⟩
      omega
  | text | character | boolean | decimal | array | table => simp [Setting.isBelow]

/-- Numbers are read into any type that keeps those below the limit. -/
theorem natural_readBy {make : Nat → α} {number : α → Nat}
    (kept : ∀ value < limit, number (make value) = value) :
    (natural limit).ReadBy (fun setting ↦ make <$> Setting.natural limit setting)
      fun found ↦ some (.integer (number found)) := by
  intro setting shown
  simp only [map_eq_ok_iff, natural_eq_ok_iff, Gives, fits, isBelow_iff]
  constructor
  · rintro ⟨_, ⟨value, ⟨below, rfl⟩, rfl⟩, rfl⟩
    exact ⟨⟨value, below, rfl⟩, by rw [kept value below]; rfl⟩
  · rintro ⟨⟨value, below, rfl⟩, rfl⟩
    exact ⟨_, ⟨value, ⟨below, rfl⟩, rfl⟩, by rw [kept value below]; rfl⟩

theorem uint8_readBy :
    (natural UInt8.size).ReadBy Setting.uint8 fun value ↦ some (.integer value.toNat) :=
  natural_readBy fun _ below ↦ UInt8.toNat_ofNat_of_lt' below

theorem uint16_readBy :
    (natural UInt16.size).ReadBy Setting.uint16 fun value ↦ some (.integer value.toNat) :=
  natural_readBy fun _ below ↦ UInt16.toNat_ofNat_of_lt' below

theorem uint32_readBy :
    (natural UInt32.size).ReadBy Setting.uint32 fun value ↦ some (.integer value.toNat) :=
  natural_readBy fun _ below ↦ UInt32.toNat_ofNat_of_lt' below

theorem count_readBy :
    (natural UInt64.size).ReadBy Setting.count fun value ↦ some (.integer value) := by
  intro setting shown
  have kept : ∀ value < UInt64.size, id value = value := fun _ _ ↦ rfl
  simpa [Setting.count] using natural_readBy kept setting shown

theorem truth_readBy : truth.ReadBy Setting.truth fun value ↦ some (.boolean value) := by
  intro setting shown
  cases setting <;> simp [Setting.truth, Gives, fits, Setting.shown, eq_comm]

theorem string_readBy : string.ReadBy Setting.string fun content ↦ some (.text content) := by
  intro setting shown
  cases setting <;> simp [Setting.string, Gives, fits, Setting.shown, eq_comm]

private theorem key_of_ofKey? {content : String} {protocol : WireProtocol}
    (named : WireProtocol.ofKey? content = some protocol) : protocol.key = content := by
  unfold WireProtocol.ofKey? at named
  split at named
  · obtain rfl := Option.some.inj named
    rfl
  · obtain rfl := Option.some.inj named
    rfl
  · nomatch named

theorem protocol_readBy :
    protocol.ReadBy Setting.protocol fun protocol ↦ some (.text protocol.key) := by
  intro setting shown
  cases setting with
  | text content =>
    cases named : WireProtocol.ofKey? content with
    | none => simp [Setting.protocol, Gives, fits, named]
    | some protocol =>
      simp [Setting.protocol, Gives, fits, Setting.shown, named, key_of_ofKey? named, eq_comm]
  | table entries =>
    cases entries with
    | nil => simp [Setting.protocol, Gives, fits]
    | cons pair rest =>
      cases named : WireProtocol.ofKey? pair.1 <;> simp [Setting.protocol, Gives, fits, named]
  | character | boolean | integer | decimal | array => simp [Setting.protocol, Gives, fits]

private theorem uint8_eq_ok_iff {value : UInt8} :
    Setting.uint8 setting = .ok value ↔ .integer value.toNat = setting := by
  simp only [Setting.uint8, map_eq_ok_iff, natural_eq_ok_iff]
  constructor
  · rintro ⟨number, ⟨below, rfl⟩, rfl⟩
    rw [UInt8.toNat_ofNat_of_lt' below]
  · rintro rfl
    exact ⟨value.toNat, ⟨value.toNat_lt, rfl⟩, UInt8.ofNat_toNat⟩

/-- A list is read item by item. -/
private theorem items_eq_ok_iff {values : List Setting} {position : Nat} {found : List UInt8} :
    Setting.items Setting.uint8 position values = .ok found ↔
      found.map (fun length ↦ .integer length.toNat) = values := by
  induction values generalizing position found with
  | nil => cases found <;> simp [Setting.items]
  | cons value rest ih =>
    simp only [Setting.items, bind_eq_ok_iff, within_eq_ok_iff, uint8_eq_ok_iff, ih]
    cases found with
    | nil => simp [pure, Except.pure]
    | cons first others =>
      simp only [pure, Except.pure, Except.ok.injEq, List.cons.injEq, List.map_cons]
      constructor
      · rintro ⟨_, read, _, later, rfl, rfl⟩
        exact ⟨read, later⟩
      · rintro ⟨read, later⟩
        exact ⟨first, read, others, later, rfl, rfl⟩

theorem lengths_readBy : lengths.ReadBy (Setting.list Setting.uint8) fun lengths ↦
    some (.array (lengths.map fun length ↦ .integer length.toNat)) := by
  intro setting shown
  cases setting with
  | array values =>
    simp only [Setting.list, items_eq_ok_iff, Gives, fits, List.all_eq_true, isBelow_iff]
    constructor
    · rintro ⟨found, rfl, rfl⟩
      refine ⟨fun value member ↦ ?_, rfl⟩
      obtain ⟨length, -, rfl⟩ := List.mem_map.mp member
      exact ⟨length.toNat, length.toNat_lt, rfl⟩
    · rintro ⟨inside, rfl⟩
      have each : ∀ value ∈ values, ∃ length : UInt8, .integer length.toNat = value := by
        intro value member
        obtain ⟨number, below, rfl⟩ := inside value member
        exact ⟨UInt8.ofNat number, by rw [UInt8.toNat_ofNat_of_lt' below]⟩
      obtain ⟨found, same⟩ : values ∈ Set.range
          (List.map fun length : UInt8 ↦ Setting.integer length.toNat) := by
        rw [Set.range_list_map]
        exact each
      exact ⟨found, same, by rw [same]; rfl⟩
  | text | character | boolean | integer | decimal | table => simp [Setting.list, Gives, fits]

end FieldKind

end DebugProbe
