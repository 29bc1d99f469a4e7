import DebugProbe.Text.Hex

/-!
# Choosing a probe

A selector names a probe by vendor, product and perhaps serial number, written as hexadecimal
numbers and text with colons between; the serial number may hold colons itself. It is used to pick
one of the probes that are attached.
Specification: `SPEC_FULL.md` §§2/6.
-/

namespace DebugProbe

/-- A probe by its identifiers. -/
structure ProbeSelector where
  vendorId : UInt16
  productId : UInt16
  /-- Any serial number will do if there is none. -/
  serialNumber : Option String := none
  deriving DecidableEq, Repr

namespace ProbeSelector

/-- Splits a text at its first colon; the second part is `none` if there is no colon. -/
def splitColon : List Char → List Char × Option (List Char)
  | [] => ([], none)
  | c :: rest =>
    if c = ':' then ([], some rest)
    else
      let (front, back) := splitColon rest
      (c :: front, back)

/-- A 16-bit identifier in hexadecimal. -/
def identifier? (text : List Char) : Option UInt16 :=
  (Hex.unsigned? 16 UInt16.size text).map UInt16.ofNat

/-- Reads a selector; an empty serial number counts as none. -/
def parse? (text : String) : Option ProbeSelector := do
  let (vendor, rest?) := splitColon text.toList
  let vendorId ← identifier? vendor
  let (product, serial?) := splitColon (← rest?)
  let productId ← identifier? product
  let serialNumber := (serial?.filter (!·.isEmpty)).map String.ofList
  return { vendorId, productId, serialNumber }

/-- The selector as text. -/
def text (selector : ProbeSelector) : String :=
  let ids := String.ofList (Hex.padded 4 selector.vendorId.toNat ++ ':' ::
    Hex.padded 4 selector.productId.toNat)
  match selector.serialNumber with
  | some serialNumber => ids ++ ":" ++ serialNumber
  | none => ids

end ProbeSelector

/-- A probe that is attached. Which interface of it is to be opened is left out: nothing here opens
one. -/
structure ProbeListing where
  product : String
  vendorId : UInt16
  productId : UInt16
  serialNumber : Option String
  deriving DecidableEq, Repr

namespace ProbeListing

/-- The selector that names the probe. -/
def selector (listing : ProbeListing) : ProbeSelector :=
  ⟨listing.vendorId, listing.productId, listing.serialNumber⟩

/-- The probe for display. -/
def text (listing : ProbeListing) : String := listing.product ++ " -- " ++ listing.selector.text

end ProbeListing

/-- Whether a selector means an attached probe. -/
def ProbeSelector.matches (selector : ProbeSelector) (listing : ProbeListing) : Bool :=
  selector.vendorId == listing.vendorId && selector.productId == listing.productId &&
    match selector.serialNumber with
    | some serialNumber => listing.serialNumber == some serialNumber
    | none => true

/-- Why no probe can be chosen. -/
inductive SelectionError where
  | noProbes
  | ambiguous (count : Nat)
  | notFound (selector : ProbeSelector)
  | invalidSelector (text : String)
  deriving DecidableEq, Repr

/-- The failure in words. -/
def SelectionError.message : SelectionError → String
  | noProbes => "no CMSIS-DAP probe found"
  | ambiguous count => toString count ++ " probes found, select one with VID:PID[:SERIAL]"
  | notFound selector => "no CMSIS-DAP probe matches " ++ selector.text
  | invalidSelector text =>
    "'" ++ text ++ "' is not a probe selector, expected VID:PID[:SERIAL] in hex"

/-- Reads a selector, or tells what is wrong with it. -/
def ProbeSelector.parse (text : String) : Except SelectionError ProbeSelector :=
  match ProbeSelector.parse? text with
  | some selector => .ok selector
  | none => .error (.invalidSelector text)

/-- The string that stands for a selector in stored data. -/
def ProbeSelector.store (selector : ProbeSelector) : String := selector.text

/-- Reads a selector from stored data, or tells in words what is wrong with it. -/
def ProbeSelector.load (stored : String) : Except String ProbeSelector :=
  (parse stored).mapError (·.message)

/-- The attached probe that a selector means; without a selector the only one. -/
def ProbeListing.choose (attached : List ProbeListing) (selector : Option ProbeSelector) :
    Except SelectionError ProbeListing :=
  match selector with
  | some selector =>
    match attached.find? selector.matches with
    | some listing => .ok listing
    | none => .error (.notFound selector)
  | none =>
    match attached with
    | [] => .error .noProbes
    | [listing] => .ok listing
    | listings => .error (.ambiguous listings.length)

end DebugProbe
