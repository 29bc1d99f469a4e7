import DebugProbe.Config.Value

/-!
# Trees of TOML documents

A document is built up statement by statement. Each table remembers how it came to be, because that
decides what may still be added to it: a table with a header of its own is complete once the next
header begins, one that only longer headers or dotted keys named can still get a header or more
dotted keys respectively, and one written inline is complete at once.
Specification: `SPEC_FULL.md` §9.
-/

namespace DebugProbe

namespace Toml

/-- How a table came to be. -/
inductive TableOrigin where
  /-- By a header of its own, or as the document itself. -/
  | header
  /-- By a header of a table inside it. -/
  | implied
  /-- By a dotted key. -/
  | dotted
  /-- In braces. -/
  | inline
  deriving DecidableEq, Repr

/-- A value of a document. -/
inductive Node where
  | text (content : String)
  | boolean (value : Bool)
  | integer (value : Int)
  | decimal
  /-- A date, a time or both. -/
  | moment
  | array (items : List Node)
  | table (origin : TableOrigin) (entries : List (String × Node))
  /-- Tables that share a header. -/
  | tables (items : List (List (String × Node)))
  deriving Repr

/-- The pairs of a table. -/
abbrev Entries := List (String × Node)

namespace Entries

/-- Adds a value whose key has the parts `path` in front of its last part. Tables on the way must
have come from dotted keys or headers of inner tables, and the last one from dotted keys. -/
def put (node : Node) (key : String) : (path : List String) → (entries : Entries) → Option Entries
  | [], entries =>
    match Dictionary.find? key entries with
    | some _ => none
    | none => some (Dictionary.insert key node entries)
  | part :: rest, entries =>
    match Dictionary.find? part entries with
    | none => do
      let inner ← put node key rest []
      return Dictionary.insert part (.table .dotted inner) entries
    | some (.table origin inner) =>
      if origin = .dotted ∨ (origin = .implied ∧ rest ≠ []) then do
        let changed ← put node key rest inner
        return Dictionary.insert part (.table origin changed) entries
      else none
    | some (.tables items) =>
      if rest = [] then none
      else
        match items.getLast? with
        | none => none
        | some inner => do
          let changed ← put node key rest inner
          return Dictionary.insert part (.tables (items.dropLast ++ [changed])) entries
    | some _ => none

/-- Changes the table that a header names, the last one where tables share the header; tables on the
way that are missing are made. -/
def change (step : Entries → Option Entries) : (path : List String) → (entries : Entries) →
    Option Entries
  | [], entries => step entries
  | part :: rest, entries =>
    match Dictionary.find? part entries with
    | none => do
      let inner ← change step rest []
      return Dictionary.insert part (.table .implied inner) entries
    | some (.table origin inner) =>
      if origin = .inline then none
      else do
        let changed ← change step rest inner
        return Dictionary.insert part (.table origin changed) entries
    | some (.tables items) =>
      match items.getLast? with
      | none => none
      | some inner => do
        let changed ← change step rest inner
        return Dictionary.insert part (.tables (items.dropLast ++ [changed])) entries
    | some _ => none

/-- Gives a table its header, which no table can have twice. -/
def openTable (key : String) (entries : Entries) : Option Entries :=
  match Dictionary.find? key entries with
  | none => some (Dictionary.insert key (.table .header []) entries)
  | some (.table .implied inner) => some (Dictionary.insert key (.table .header inner) entries)
  | some _ => none

/-- Begins another of the tables that share a header. -/
def openAnother (key : String) (entries : Entries) : Option Entries :=
  match Dictionary.find? key entries with
  | none => some (Dictionary.insert key (.tables [[]]) entries)
  | some (.tables items) => some (Dictionary.insert key (.tables (items ++ [[]])) entries)
  | some _ => none

end Entries

/-- The key under which a date or time stands in the table that it reads as. -/
def momentKey : String := "$__toml_private_datetime"

mutual

/-- The setting that a value stands for. A date or time is a table with a single reserved key. -/
def Node.setting : Node → Setting
  | .text content => .text content
  | .boolean value => .boolean value
  | .integer value => .integer value
  | .decimal => .decimal
  | .moment => .table [(momentKey, .text "")]
  | .array items => .array (itemSettings items)
  | .table _ entries => .table (entrySettings entries)
  | .tables items => .array (tableSettings items)

/-- The settings of the items of an array. -/
def itemSettings : List Node → List Setting
  | [] => []
  | item :: rest => item.setting :: itemSettings rest

/-- The settings of the pairs of a table. -/
def entrySettings : List (String × Node) → List (String × Setting)
  | [] => []
  | (key, node) :: rest => (key, node.setting) :: entrySettings rest

/-- The settings of tables that share a header. -/
def tableSettings : List (List (String × Node)) → List Setting
  | [] => []
  | entries :: rest => .table (entrySettings entries) :: tableSettings rest

end

end Toml

end DebugProbe
