import DebugProbe.Text.Hex
import DebugProbe.Text.Scan

/-!
# Numbers and dates in TOML documents

Integers have 64 bits and a sign; in bases other than ten they have no sign. Digits may have single
underscores between them. A decimal number must not be so large that it rounds to infinity. Dates
and times have to exist in the calendar.
Specification: `SPEC_FULL.md` §9.
-/

namespace DebugProbe

namespace Toml

/-- Whether every underscore stands between two digits. -/
def groupsDigits : List Char → Bool
  | [] => false
  | ['_'] => false
  | [_] => true
  | a :: b :: rest =>
    a != '_' && (b == '_' && groupsDigits rest || b != '_' && groupsDigits (b :: rest))

/-- Digits with underscores between them, given without the underscores. -/
def digitRun (isDigit : Char → Bool) : Scan (List Char) := do
  let run ← Scan.takeSome fun c ↦ isDigit c || c == '_'
  if groupsDigits run then return run.filter (· != '_') else failure

/-- Whether a character is a digit of a base. -/
def isDigitOf (base : Nat) (c : Char) : Bool :=
  match Hex.digitValue? c with
  | some value => value < base
  | none => false

/-- A sign, if there is one; whether the number is negative. -/
def sign : Scan Bool := do
  match ← Scan.peek? with
  | some '-' => do
    Scan.char '-'
    return true
  | some '+' => do
    Scan.char '+'
    return false
  | _ => return false

/-- Decimal digits without a leading zero. -/
def wholeDigits : Scan (List Char) := do
  let run ← digitRun Char.isDigit
  if run.head? = some '0' ∧ 1 < run.length then failure else return run

/-- The value of decimal digits. -/
def decimalValue (digits : List Char) : Nat :=
  digits.foldl (fun value c ↦ 10 * value + (c.toNat - 48)) 0

/-- Numbers from here on round to infinity. -/
def infinityBound : Nat := 1 <<< 1024 - 1 <<< 970

/-- Whether a number, given by its digits and the power of ten of the last one, rounds to
infinity. -/
def overflows (digits : List Char) (exponent : Int) : Bool :=
  let value := decimalValue digits
  let places := (digits.dropWhile (· == '0')).length
  let magnitude := (places : Int) + exponent
  if value = 0 then false
  else if 320 < magnitude then true
  else if magnitude < 300 then false
  else if 0 ≤ exponent then decide (infinityBound ≤ value * Nat.pow 10 exponent.toNat)
  else decide (infinityBound * Nat.pow 10 (-exponent).toNat ≤ value)

/-- An integer in another base than ten, after its mark. -/
def basedInteger (mark : String) (base : Nat) : Scan Int := do
  Scan.literal mark
  let digits ← digitRun (isDigitOf base)
  match Hex.valueOf? base digits with
  | some value => if value < 1 <<< 63 then return value else failure
  | none => failure

/-- An integer. -/
def integer : Scan Int := do
  if ← Scan.startsWith "0x" then basedInteger "0x" 16
  else if ← Scan.startsWith "0o" then basedInteger "0o" 8
  else if ← Scan.startsWith "0b" then basedInteger "0b" 2
  else
    let negative ← sign
    let value := decimalValue (← wholeDigits)
    if negative then
      if value ≤ 1 <<< 63 then return -(value : Int) else failure
    else if value < 1 <<< 63 then return value else failure

/-- The exponent of a decimal number. -/
def exponent : Scan Int := do
  let _ ← Scan.satisfy fun c ↦ c == 'e' || c == 'E'
  let negative ← sign
  let value := decimalValue (← digitRun Char.isDigit)
  return if negative then -(value : Int) else value

/-- The digits after the point. -/
def fraction : Scan (List Char) := do
  Scan.char '.'
  digitRun Char.isDigit

/-- A number with a fraction or an exponent or both, or one that is not finite. -/
def decimal : Scan Unit := do
  let negative ← sign
  (Scan.literal "inf" <|> Scan.literal "nan") <|> do
    let whole ← wholeDigits
    let places? ← Scan.optional fraction
    let power? ← Scan.optional exponent
    if places?.isNone && power?.isNone then failure
    let places := places?.getD []
    if !negative && overflows (whole ++ places) (power?.getD 0 - places.length) then failure

/-- A number of exactly `count` digits, within bounds. -/
def fixedNumber (count low high : Nat) : Scan Nat := do
  let digits ← Scan.upTo (Scan.satisfy Char.isDigit) count
  let value := decimalValue digits
  if digits.length = count ∧ low ≤ value ∧ value ≤ high then return value else failure

/-- Whether a year has a leap day. -/
def isLeapYear (year : Nat) : Bool := year % 4 = 0 && (year % 100 ≠ 0 || year % 400 = 0)

/-- Number of days of a month. -/
def daysOfMonth (year month : Nat) : Nat :=
  if month = 2 then if isLeapYear year then 29 else 28
  else if month = 4 ∨ month = 6 ∨ month = 9 ∨ month = 11 then 30
  else 31

/-- A date. -/
def date : Scan Unit := do
  let year ← fixedNumber 4 0 9999
  Scan.char '-'
  let month ← fixedNumber 2 1 12
  Scan.char '-'
  let _ ← fixedNumber 2 1 (daysOfMonth year month)

/-- A time of the day, perhaps with a fraction of a second. -/
def time : Scan Unit := do
  let _ ← fixedNumber 2 0 23
  Scan.char ':'
  let _ ← fixedNumber 2 0 59
  Scan.char ':'
  let _ ← fixedNumber 2 0 60
  let _ ← Scan.optional (do
    Scan.char '.'
    Scan.takeSome Char.isDigit)

/-- The distance from universal time. -/
def zone : Scan Unit := do
  match ← Scan.satisfy fun c ↦ c == 'Z' || c == 'z' || c == '+' || c == '-' with
  | 'Z' | 'z' => return
  | _ =>
    let _ ← fixedNumber 2 0 23
    Scan.char ':'
    let _ ← fixedNumber 2 0 59

/-- A date, a time or both. -/
def dateTime : Scan Unit :=
  (do
    date
    let _ ← Scan.optional (do
      let _ ← Scan.satisfy fun c ↦ c == 'T' || c == 't' || c == ' '
      time
      let _ ← Scan.optional zone)) <|> time

end Toml

end DebugProbe
