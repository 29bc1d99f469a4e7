import DebugProbe.Probe.Selector
import DebugProbe.Proofs.Text.Numerals

/-!
# Selectors as text

Which texts are selectors is said by a grammar: two identifiers, each a hexadecimal numeral of 16
bits perhaps after a plus sign, and a serial number, with colons between. Reading accepts exactly
these texts. What a selector is shown as is one of them, and it is read as the same selector, but
for an empty serial number, which is read as none.
-/

namespace DebugProbe

namespace ProbeSelector

/-- The text of an identifier: a hexadecimal numeral that is not empty, perhaps after a plus sign.
As an identifier has 16 bits, the number is at most 65535. -/
def IsIdentifier (identifier : UInt16) (text : List Char) : Prop :=
  ∃ digits, (text = digits ∨ text = '+' :: digits) ∧ digits ≠ [] ∧
    Hex.Numeral 16 digits identifier.toNat

/-- What may follow the identifiers, and the serial number that it gives. -/
inductive IsEnding : (serialNumber : Option String) → (text : List Char) → Prop
  | absent : IsEnding none []
  | empty : IsEnding none [':']
  | given (serialNumber : String) (nonempty : serialNumber ≠ "") :
      IsEnding (some serialNumber) (':' :: serialNumber.toList)

/-- The text is written for the selector: two identifiers with a colon between, and perhaps another
colon with a serial number. -/
def Spells (text : String) (selector : ProbeSelector) : Prop :=
  ∃ vendor product ending, text.toList = vendor ++ ':' :: (product ++ ending) ∧
    ':' ∉ vendor ∧ ':' ∉ product ∧ IsIdentifier selector.vendorId vendor ∧
      IsIdentifier selector.productId product ∧ IsEnding selector.serialNumber ending

/-- The selector without an empty serial number, which is as good as none. -/
def normalized (selector : ProbeSelector) : ProbeSelector :=
  { selector with serialNumber := selector.serialNumber.filter (· ≠ "") }

/-- A text is split at its first colon. -/
theorem splitColon_eq_iff {text front : List Char} {back : Option (List Char)} :
    splitColon text = (front, back) ↔
      ':' ∉ front ∧ text = front ++ back.elim [] (':' :: ·) := by
  induction text generalizing front with
  | nil =>
    rw [splitColon, Prod.mk.injEq, eq_comm (a := []), eq_comm (a := none)]
    constructor
    · rintro ⟨rfl, rfl⟩
      exact ⟨List.not_mem_nil, rfl⟩
    · rintro ⟨-, none⟩
      obtain ⟨rfl, ended⟩ := List.append_eq_nil_iff.mp none.symm
      cases back with
      | none => exact ⟨rfl, rfl⟩
      | some rest => nomatch ended
  | cons c text ih =>
    unfold splitColon
    split
    · next colon =>
      subst colon
      constructor
      · rintro ⟨⟩
        exact ⟨List.not_mem_nil, rfl⟩
      · rintro ⟨noColon, same⟩
        cases front with
        | nil =>
          cases back with
          | none => nomatch same
          | some rest => rw [List.tail_eq_of_cons_eq same]
        | cons first front =>
          obtain rfl := List.head_eq_of_cons_eq same
          exact absurd List.mem_cons_self noColon
    · next other =>
      rw [Prod.mk.injEq]
      constructor
      · rintro ⟨rfl, rfl⟩
        obtain ⟨noColon, same⟩ := ih.mp rfl
        refine ⟨?_, congrArg (c :: ·) same⟩
        rw [List.mem_cons, not_or]
        exact ⟨Ne.symm other, noColon⟩
      · rintro ⟨noColon, same⟩
        cases front with
        | nil =>
          cases back with
          | none => nomatch same
          | some rest => exact absurd (List.head_eq_of_cons_eq same) other
        | cons first front =>
          obtain rfl := List.head_eq_of_cons_eq same
          rw [ih.mpr ⟨fun member ↦ noColon (List.mem_cons_of_mem _ member),
            List.tail_eq_of_cons_eq same⟩]
          exact ⟨rfl, rfl⟩

theorem identifier?_eq_some_iff {identifier : UInt16} {text : List Char} :
    identifier? text = some identifier ↔ IsIdentifier identifier text := by
  have same (number : Nat) : (number < UInt16.size ∧ UInt16.ofNat number = identifier) ↔
      number = identifier.toNat := by
    constructor
    · rintro ⟨small, rfl⟩
      exact (UInt16.toNat_ofNat_of_lt' small).symm
    · rintro rfl
      exact ⟨identifier.toNat_lt, UInt16.ofNat_toNat⟩
  unfold identifier? IsIdentifier
  rw [Option.map_eq_some_iff]
  simp only [Hex.unsigned?_eq_some_iff]
  constructor
  · rintro ⟨number, ⟨digits, written, nonempty, numeral, small⟩, isNumber⟩
    rw [(same number).mp ⟨small, isNumber⟩] at numeral
    exact ⟨digits, written, nonempty, numeral⟩
  · rintro ⟨digits, written, nonempty, numeral⟩
    obtain ⟨small, isNumber⟩ := (same _).mpr rfl
    exact ⟨_, ⟨digits, written, nonempty, numeral, small⟩, isNumber⟩

/-- What follows the second identifier gives the serial number. -/
theorem isEnding_iff {serialNumber : Option String} {back : Option (List Char)} :
    (back.filter (!·.isEmpty)).map String.ofList = serialNumber ↔
      IsEnding serialNumber (back.elim [] (':' :: ·)) := by
  constructor
  · rintro rfl
    match back with
    | none => exact .absent
    | some [] => exact .empty
    | some (c :: rest) =>
      have written : c :: rest = (String.ofList (c :: rest)).toList := String.toList_ofList.symm
      have given := IsEnding.given (String.ofList (c :: rest)) fun none ↦ by
        rw [none] at written
        nomatch written
      rw [← written] at given
      exact given
  · intro ending
    match back with
    | none => cases ending; rfl
    | some [] =>
      generalize text : (some []).elim [] (':' :: ·) = written at ending
      cases ending with
      | absent => nomatch text
      | empty => rfl
      | given serialNumber nonempty =>
        have none : [] = serialNumber.toList := List.tail_eq_of_cons_eq text
        exact absurd (String.toList_eq_nil_iff.mp none.symm) nonempty
    | some (c :: rest) =>
      generalize text : (some (c :: rest)).elim [] (':' :: ·) = written at ending
      cases ending with
      | absent => nomatch text
      | empty => nomatch text
      | given serialNumber nonempty =>
        have same : c :: rest = serialNumber.toList := List.tail_eq_of_cons_eq text
        show some (String.ofList (c :: rest)) = some serialNumber
        rw [same, String.ofList_toList]

/-- Exactly the texts that are written for a selector are read, as that selector. -/
theorem parse?_eq_some_iff {text : String} {selector : ProbeSelector} :
    parse? text = some selector ↔ Spells text selector := by
  obtain ⟨vendorId, productId, serialNumber⟩ := selector
  unfold parse? Spells
  rcases split : splitColon text.toList with ⟨vendor, rest?⟩
  obtain ⟨noColon, same⟩ := splitColon_eq_iff.mp split
  simp only [Option.bind_eq_bind, Option.bind_eq_some_iff, Option.pure_def, Option.some.injEq,
    identifier?_eq_some_iff, ProbeSelector.mk.injEq]
  constructor
  · rintro ⟨_, isVendor, rest, rfl, _, isProduct, rfl, rfl, ending⟩
    rcases splitRest : splitColon rest with ⟨product, serial?⟩
    rw [splitRest] at isProduct ending
    obtain ⟨noColonRest, rfl⟩ := splitColon_eq_iff.mp splitRest
    exact ⟨vendor, product, _, same, noColon, noColonRest, isVendor, isProduct,
      isEnding_iff.mp ending⟩
  · rintro ⟨vendor', product, ending, written, noColon', noColonRest, isVendor, isProduct, isEnding⟩
    -- The text is split where it is put together.
    have first : splitColon text.toList = (vendor', some (product ++ ending)) :=
      splitColon_eq_iff.mpr ⟨noColon', written⟩
    obtain ⟨rfl, rfl⟩ := Prod.mk.inj (split.symm.trans first)
    obtain ⟨serial?, rfl⟩ : ∃ serial? : Option (List Char),
        ending = serial?.elim [] (':' :: ·) := by
      cases isEnding with
      | absent => exact ⟨none, rfl⟩
      | empty => exact ⟨some [], rfl⟩
      | given serialNumber _ => exact ⟨some serialNumber.toList, rfl⟩
    have second : splitColon (product ++ serial?.elim [] (':' :: ·)) = (product, serial?) :=
      splitColon_eq_iff.mpr ⟨noColonRest, rfl⟩
    refine ⟨vendorId, isVendor, _, rfl, productId, ?_, rfl, rfl, ?_⟩
    · rw [second]
      exact isProduct
    · rw [second]
      exact isEnding_iff.mpr isEnding

theorem parse_eq_ok_iff {text : String} {selector : ProbeSelector} :
    parse text = .ok selector ↔ Spells text selector := by
  rw [← parse?_eq_some_iff]
  unfold parse
  cases parse? text with
  | some found => simp
  | none => simp

example : parse "+1fc9:000143:7c:df" = .ok ⟨0x1FC9, 0x0143, some "7c:df"⟩ := by decide +kernel

/-- Any other text is refused, and the refusal names it. -/
theorem parse_eq_error_iff {text : String} {error : SelectionError} :
    parse text = .error error ↔
      error = .invalidSelector text ∧ ∀ selector, ¬Spells text selector := by
  simp only [← parse?_eq_some_iff]
  unfold parse
  cases parse? text with
  | some found => simp
  | none => simp [eq_comm]

/-- What a selector is shown as is written for it, or for it without its empty serial number. -/
theorem spells_text (selector : ProbeSelector) : Spells selector.text selector.normalized := by
  have identifier (number : UInt16) : IsIdentifier number (Hex.padded 4 number.toNat) :=
    ⟨_, .inl rfl, Hex.padded_ne_nil 4 _, Hex.numeral_padded 4 _⟩
  have noColon (number : UInt16) : ':' ∉ Hex.padded 4 number.toNat := by
    intro member
    obtain ⟨digit, isDigit⟩ := (Hex.numeral_padded 4 number.toNat).isDigit member
    nomatch Hex.digitValue?_eq_some_iff.mpr isDigit
  refine ⟨Hex.padded 4 selector.vendorId.toNat, Hex.padded 4 selector.productId.toNat,
    selector.serialNumber.elim [] (':' :: ·.toList), ?_, noColon _, noColon _, identifier _,
    identifier _, ?_⟩
  · unfold text
    cases selector.serialNumber with
    | none => simp
    | some serialNumber => simp [String.toList_append]
  · unfold normalized
    dsimp only
    cases selector.serialNumber with
    | none => exact .absent
    | some serialNumber =>
      by_cases empty : serialNumber = ""
      · rw [empty]
        exact .empty
      · rw [Option.filter_some, if_pos (by simpa using empty)]
        exact .given serialNumber empty

/-- A selector that is shown is read without its empty serial number. -/
theorem parse_text (selector : ProbeSelector) :
    parse selector.text = .ok selector.normalized :=
  parse_eq_ok_iff.mpr selector.spells_text

theorem normalized_eq_self_iff {selector : ProbeSelector} :
    selector.normalized = selector ↔ selector.serialNumber ≠ some "" := by
  obtain ⟨vendorId, productId, serialNumber⟩ := selector
  cases serialNumber with
  | none => simp [normalized]
  | some serialNumber => simp [normalized, Option.filter_eq_some_iff]

/-- No text is written for a selector with an empty serial number. -/
theorem Spells.normalized_eq {text : String} {selector : ProbeSelector}
    (spells : Spells text selector) : selector.normalized = selector := by
  obtain ⟨vendorId, productId, serialNumber⟩ := selector
  obtain ⟨_, _, _, -, -, -, -, -, ending⟩ := spells
  rw [normalized_eq_self_iff]
  cases ending with
  | absent => exact nofun
  | empty => exact nofun
  | given serialNumber nonempty =>
    intro empty
    exact nonempty (Option.some.inj empty)

/-- Reading accepts exactly the texts of the grammar and tells the rest apart by the text itself.
What was read is shown as a text that is read as the same and shown as the same. -/
theorem parse_exact (text : String) :
    (∀ selector, parse text = .ok selector ↔ Spells text selector) ∧
    (∀ error, parse text = .error error ↔
      error = .invalidSelector text ∧ ∀ selector, ¬Spells text selector) ∧
    ∀ selector, parse text = .ok selector →
      parse selector.text = .ok selector ∧
        (parse selector.text).map ProbeSelector.text = .ok selector.text := by
  refine ⟨fun _ ↦ parse_eq_ok_iff, fun _ ↦ parse_eq_error_iff, fun selector read ↦ ?_⟩
  have again : parse selector.text = .ok selector := by
    rw [parse_text, (parse_eq_ok_iff.mp read).normalized_eq]
  exact ⟨again, by rw [again]; rfl⟩

end ProbeSelector

namespace ProbeListing

open ProbeSelector

/-- The selector of an attached probe is read back as it was shown and as it was stored, unless the
serial number of the probe is an empty text. -/
theorem selector_read_back_iff (listing : ProbeListing) :
    parse listing.selector.text = .ok listing.selector ∧
        load listing.selector.store = .ok listing.selector ↔
      listing.serialNumber ≠ some "" := by
  unfold load store
  rw [parse_text, Except.mapError, Except.ok.injEq, Except.ok.injEq, and_self]
  exact normalized_eq_self_iff

/-- A probe with an empty serial number is shown with a colon at the end, and what is shown is read
as a selector without a serial number. -/
theorem not_selector_read_back_empty :
    let listing : ProbeListing := ⟨"MCU-LINK", 0x1FC9, 0x0143, some ""⟩
    listing.selector.text = "1fc9:0143:" ∧ parse "1fc9:0143:" = .ok ⟨0x1FC9, 0x0143, none⟩ ∧
      parse listing.selector.text ≠ .ok listing.selector ∧
      load listing.selector.store ≠ .ok listing.selector := by
  decide +kernel

end ProbeListing

end DebugProbe
