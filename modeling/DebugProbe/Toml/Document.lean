import DebugProbe.Toml.Number
import DebugProbe.Toml.Text
import DebugProbe.Toml.Tree

/-!
# TOML documents

A document is a sequence of lines: headers of tables, headers of tables that share one, and pairs of
a key and a value. Arrays may spread over lines and end in a comma, tables in braces may not. Arrays
and tables may be nested only up to a limit.
Specification: `SPEC_FULL.md` §9.
-/

namespace DebugProbe

namespace Toml

/-- A pair: the parts of its key but the last, the last part, and the value. -/
structure Pair where
  path : List String
  key : String
  value : Node

/-- What a line says. -/
inductive Statement where
  | header (path : List String) (key : String)
  | sharedHeader (path : List String) (key : String)
  | pair (pair : Pair)

/-- A key, with its last part apart. -/
def splitKey : Scan (List String × String) := do
  let parts ← key
  match parts.getLast? with
  | some last => return (parts.dropLast, last)
  | none => failure

/-- An array of values. -/
def array (value : Scan Node) : Scan Node := do
  Scan.char '['
  let item := do
    spacing
    let node ← value
    spacing
    return node
  let items? ← Scan.optional (do
    let items ← Scan.separated item (Scan.char ',')
    let _ ← Scan.optional (Scan.char ',')
    return items)
  spacing
  Scan.char ']'
  return .array (items?.getD [])

/-- A pair, up to the blanks after it. -/
def keyValue (value : Scan Node) : Scan Pair := do
  let (path, key) ← splitKey
  Scan.char '='
  blanks
  let node ← value
  return ⟨path, key, node⟩

/-- A table in braces. -/
def inlineTable (value : Scan Node) : Scan Node := do
  Scan.char '\x7b'
  let item := do
    let pair ← keyValue value
    blanks
    return pair
  let pairs? ← Scan.optional (Scan.separated item (Scan.char ','))
  blanks
  Scan.char '\x7d'
  let add (entries : Entries) (pair : Pair) : Option Entries :=
    entries.put pair.value pair.key pair.path
  match (pairs?.getD []).foldlM add [] with
  | some entries => return .table .inline entries
  | none => failure

/-- A value whose arrays and tables are nested at most `depth` deep. -/
def value (depth : Nat) : Scan Node := do
  match ← Scan.peek? with
  | some '"' | some '\'' => .text <$> string
  | some 't' => do
    Scan.literal "true"
    return .boolean true
  | some 'f' => do
    Scan.literal "false"
    return .boolean false
  | some '[' =>
    match depth with
    | 0 => failure
    | depth + 1 => array (value depth)
  | some '\x7b' =>
    match depth with
    | 0 => failure
    | depth + 1 => inlineTable (value depth)
  | _ => (do
      dateTime
      return .moment) <|> (do
      decimal
      return .decimal) <|> (.integer <$> integer)

/-- A header of one table, or of one among tables that share it. -/
def header : Scan Statement := do
  if ← Scan.startsWith "[[" then
    Scan.literal "[["
    let (path, key) ← splitKey
    Scan.literal "]]"
    lineRest
    return .sharedHeader path key
  else
    Scan.literal "["
    let (path, key) ← splitKey
    Scan.literal "]"
    lineRest
    return .header path key

/-- A line, which may say nothing. -/
def line : Scan (Option Statement) := do
  blanks
  match ← Scan.peek? with
  | none => failure
  | some '#' => do
    comment
    lineEnd
    return none
  | some '\n' | some '\r' => do
    newline
    return none
  | some '[' => some <$> header
  | some _ => do
    let pair ← keyValue (value (depthLimit - 1))
    lineRest
    return some (.pair pair)

/-- All statements of a document, which may begin with a byte order mark. -/
def statements : Scan (List Statement) := do
  let _ ← Scan.optional (Scan.char '\uFEFF')
  let lines ← Scan.many line
  blanks
  Scan.atEnd
  return lines.filterMap id

/-- The document so far, and the header that pairs belong to. -/
structure Builder where
  entries : Entries := []
  current : List String := []

/-- Takes a statement into a document. -/
def Builder.add (builder : Builder) : Statement → Option Builder
  | .header path key => do
    return ⟨← builder.entries.change (Entries.openTable key) path, path ++ [key]⟩
  | .sharedHeader path key => do
    return ⟨← builder.entries.change (Entries.openAnother key) path, path ++ [key]⟩
  | .pair pair => do
    let put := Entries.put pair.value pair.key pair.path
    return { builder with entries := ← builder.entries.change put builder.current }

/-- The pairs of a document, `none` if it is not well formed. -/
def parse? (text : String) : Option (List (String × Setting)) := do
  let statements ← Scan.whole? statements text.toList
  let built ← statements.foldlM Builder.add {}
  return entrySettings built.entries

end Toml

end DebugProbe
