/-!
# Descriptions of values

Some messages show the parameters of a command: a record is its name followed by its fields in
braces, a list stands in brackets, and a single-field wrapper puts its content in parentheses.
Specification: `SPEC_FULL.md` §7.
-/

namespace DebugProbe

namespace Description

/-- A truth value. -/
def bool (value : Bool) : String := if value then "true" else "false"

/-- A natural number in decimal. -/
def nat (value : Nat) : String := toString value

/-- A list, with its items separated by commas. -/
def list (items : List String) : String := "[" ++ String.intercalate ", " items ++ "]"

/-- A byte string as a list of decimal numbers. -/
def bytes (items : List UInt8) : String := list (items.map fun byte ↦ nat byte.toNat)

/-- A record with at least one field. -/
def record (name : String) (fields : List (String × String)) : String :=
  name ++ " \x7b " ++ String.intercalate ", " (fields.map fun field ↦ field.1 ++ ": " ++ field.2)
    ++ " \x7d"

/-- An optional value. -/
def option : Option String → String
  | some value => "Some(" ++ value ++ ")"
  | none => "None"

end Description

end DebugProbe
