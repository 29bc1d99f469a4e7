import DebugProbe.Config.Value
import DebugProbe.Text.Blank
import DebugProbe.Text.Hex
import DebugProbe.Text.Scan
import DebugProbe.Toml.Text

/-!
# Settings from environment variables

A variable whose name begins with the program's own beginning, in any case, names a setting by the
rest of its name, in small letters, with double underscores between the levels. Its value is read as
a truth value, a number, a text in double quotes, a character in single quotes, an array or a table
where it has the form of one, and is a text otherwise, taken as it stands.
Specification: `SPEC_FULL.md` §9.
-/

namespace DebugProbe

namespace Environment

/-- How the names of the program's variables begin, in small letters. -/
def beginning : List Char := "dapwire_".toList

/-- Replaces double underscores, from left to right, by dots. -/
def dotted : List Char → List Char
  | '_' :: '_' :: rest => '.' :: dotted rest
  | c :: rest => c :: dotted rest
  | [] => []

/-- Splits a text at its dots. -/
def splitDots : List Char → List (List Char)
  | [] => [[]]
  | c :: rest =>
    match splitDots rest with
    | [] => [[c]]
    | part :: parts => if c = '.' then [] :: part :: parts else (c :: part) :: parts

/-- The keys that the name of a variable leads through; `none` if the variable is not the program's
or if one of the levels of its name is empty. -/
def keys? (name : String) : Option (List String) :=
  let small := (Blank.trim name.toList).map Char.toLower
  if beginning.isPrefixOf small then
    let levels := splitDots (Blank.trim (dotted (small.drop beginning.length)))
    if levels.any (·.isEmpty) then none else some (levels.map String.ofList)
  else none

/-- A decimal number with a point: digits before it or after it or both, and perhaps an exponent. -/
def decimal : Scan Unit := do
  let sign := Scan.optional (Scan.satisfy fun c ↦ c == '+' || c == '-')
  let _ ← sign
  let whole ← Scan.takeWhile Char.isDigit
  Scan.char '.'
  let places ← Scan.takeWhile Char.isDigit
  if whole.isEmpty && places.isEmpty then failure
  let _ ← Scan.optional (do
    let _ ← Scan.satisfy fun c ↦ c == 'e' || c == 'E'
    let _ ← sign
    Scan.takeSome Char.isDigit)

/-- An integer of 64 bits, with a sign or without. -/
def integer? (word : List Char) : Option Int :=
  match word with
  | '-' :: digits =>
    if digits.isEmpty then none
    else
      match Hex.valueOf? 10 digits with
      | some value => if value ≤ 1 <<< 63 then some (-(value : Int)) else none
      | none => none
  | _ => (Hex.unsigned? 10 UInt64.size word).map Int.ofNat

/-- The value of a word that is neither quoted nor a list nor a table. -/
def wordValue (word : List Char) : Setting :=
  if (Scan.whole? decimal word).isSome then .decimal
  else
    match integer? word with
    | some value => .integer value
    | none => .text (String.ofList word)

/-- White space between the parts of a value. -/
def spacing : Scan Unit := do
  let _ ← Scan.takeWhile Blank.isAsciiSpace

/-- The raw content of a quoted text: all up to the next quote without a backslash in front. -/
def quotedContent : List Char → Option (List Char × List Char)
  | [] => none
  | '\\' :: c :: rest =>
    (quotedContent rest).map fun (content, left) ↦ ('\\' :: c :: content, left)
  | '"' :: rest => some ([], rest)
  | c :: rest => (quotedContent rest).map fun (content, left) ↦ (c :: content, left)

/-- The characters that the content of a quoted text stands for. -/
def unescaped : Scan (List Char) := do
  let content ← Scan.many (Scan.satisfy (fun c ↦ Toml.isText c && c != '\\') <|> (do
    Scan.char '\\'
    Toml.escape))
  Scan.atEnd
  return content

/-- A text in double quotes, with escapes. -/
def quoted : Scan String := do
  Scan.char '"'
  let content ← quotedContent
  match Scan.whole? unescaped content with
  | some characters => return String.ofList characters
  | none => failure

/-- One character of any kind in single quotes. -/
def quotedCharacter : Scan Char := do
  Scan.char '\''
  let c ← Scan.satisfy fun _ ↦ true
  Scan.char '\''
  return c

/-- At most `count` items with commas between them and a closing character at the end. A comma may
stand directly in front of the closing character. -/
def listed {α : Type} (close : Char) (item : Scan α) : (count : Nat) → Scan (List α)
  | 0 => failure
  | count + 1 => do
    if (← Scan.peek?) = some close then
      Scan.char close
      return []
    let first ← item
    if (← Scan.peek?) = some ',' then
      Scan.char ','
      return first :: (← listed close item count)
    else
      Scan.char close
      return [first]

/-- Items between brackets. -/
def enclosed {α : Type} (opening closing : Char) (item : Scan α) : Scan (List α) := do
  Scan.char opening
  listed closing item ((← get).length + 1)

/-- A key of a table. -/
def key : Scan String := do
  if (← Scan.peek?) = some '"' then quoted
  else String.ofList <$> Scan.takeSome Toml.isBareKey

/-- A pair of a table. -/
def pair (value : Scan Setting) : Scan (String × Setting) := do
  spacing
  let name ← key
  spacing
  Scan.char '='
  return (name, ← value)

/-- Characters that separate words from each other. -/
def isSeparator (c : Char) : Bool := c == ',' || c == '\x7b' || c == '\x7d' || c == '[' || c == ']'

/-- A value in which lists and tables are nested at most `depth` deep, with white space around. -/
def value (depth : Nat) : Scan Setting := do
  spacing
  let found ← (do
    if ← Scan.startsWith "true" then
      Scan.literal "true"
      return .boolean true
    if ← Scan.startsWith "false" then
      Scan.literal "false"
      return .boolean false
    match ← Scan.peek? with
    | some '\x7b' =>
      match depth with
      | 0 => failure
      | depth + 1 =>
        let pairs ← enclosed '\x7b' '\x7d' (pair (value depth))
        return .table
          (pairs.foldl (fun entries (name, item) ↦ Dictionary.insert name item entries) [])
    | some '[' =>
      match depth with
      | 0 => failure
      | depth + 1 => .array <$> enclosed '[' ']' (value depth)
    | some '"' => .text <$> quoted
    | some '\'' => .character <$> quotedCharacter
    | _ => do
      let word ← Scan.takeWhile fun c ↦ !isSeparator c
      return wordValue (Blank.trim word))
  spacing
  return found

/-- The setting that the value of a variable stands for. -/
def setting (content : String) : Setting :=
  let characters := content.toList
  (Scan.whole? (value characters.length) characters).getD (.text content)

/-- A setting below the keys that lead to it. -/
def nested : List String → Setting → Setting
  | [], leaf => leaf
  | key :: keys, leaf => .table [(key, nested keys leaf)]

/-- What a variable contributes to the settings. -/
def variableEntries (name content : String) : List (String × Setting) :=
  match keys? name with
  | some (key :: keys) => [(key, nested keys (setting content))]
  | _ => []

/-- Whether one name comes before another, byte by byte. -/
def precedes (a b : String × String) : Bool := !(b.1 < a.1)

/-- The settings of all variables, taken in the order of their names; later ones are put over
earlier ones. -/
def entries (environment : List (String × String)) : List (String × Setting) :=
  (environment.mergeSort precedes).foldl
    (fun merged (name, content) ↦ Setting.mergeEntries merged (variableEntries name content)) []

end Environment

end DebugProbe
