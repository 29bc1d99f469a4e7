/-!
# Hexadecimal text

Numbers are printed in lower-case hexadecimal without leading zeros, padded with zeros to a least
width where a caller asks for one. Reading accepts both cases, one leading plus sign and any number
of leading zeros, and refuses the empty digit string and values past a limit.
Specification: `SPEC_FULL.md` §6.
-/

namespace DebugProbe

namespace Hex

/-- The lower-case digit of a value below sixteen. -/
def digit (value : Nat) : Char :=
  if value < 10 then Char.ofNat (48 + value) else Char.ofNat (87 + value)

/-- The value of a hexadecimal digit of either case. -/
def digitValue? (c : Char) : Option Nat :=
  if '0' ≤ c ∧ c ≤ '9' then some (c.toNat - 48)
  else if 'a' ≤ c ∧ c ≤ 'f' then some (c.toNat - 87)
  else if 'A' ≤ c ∧ c ≤ 'F' then some (c.toNat - 55)
  else none

/-- The digits of a number, most significant first; zero has one digit. -/
def digits (value : Nat) : List Char :=
  if value < 16 then [digit value] else digits (value / 16) ++ [digit (value % 16)]
termination_by value
decreasing_by omega

/-- The digits of a number, with zeros in front up to a least width. -/
def padded (width value : Nat) : List Char :=
  let shown := digits value
  List.replicate (width - shown.length) '0' ++ shown

/-- A number in hexadecimal with its `0x` mark and at least `width` digits. -/
def marked (width value : Nat) : String := "0x" ++ String.ofList (padded width value)

/-- The value of a digit string in a base, left to right; `none` at a character that is no digit
of the base. -/
def valueOf? (base : Nat) (digits : List Char) : Option Nat :=
  digits.foldlM
    (fun value c ↦ do
      let d ← digitValue? c
      if d < base then some (base * value + d) else none)
    0

/-- An unsigned number of a base below `limit`: an optional plus sign, then one or more digits. -/
def unsigned? (base limit : Nat) (text : List Char) : Option Nat := do
  let digits := match text with
    | '+' :: rest => rest
    | _ => text
  if digits.isEmpty then none
  else
    let value ← valueOf? base digits
    if value < limit then some value else none

end Hex

end DebugProbe
