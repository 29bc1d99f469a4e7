import DebugProbe.Text.Hex
import DebugProbe.Text.Scan

/-!
# Text in TOML documents

Blanks, line ends, comments, the four kinds of strings and keys. Control characters other than the
tabulator are allowed nowhere; a line end inside a string of several lines always reads as a line
feed.
Specification: `SPEC_FULL.md` §9.
-/

namespace DebugProbe

namespace Toml

/-- A space or a tabulator. -/
def isBlank (c : Char) : Bool := c == ' ' || c == '\t'

/-- A character that text may hold: everything but control characters, and the tabulator. -/
def isText (c : Char) : Bool := c == '\t' || (' ' ≤ c && c != '\x7F')

/-- Blanks, perhaps none. -/
def blanks : Scan Unit := do
  let _ ← Scan.takeWhile isBlank

/-- A line feed, perhaps after a carriage return. -/
def newline : Scan Unit := Scan.literal "\n" <|> Scan.literal "\r\n"

/-- A comment, without the line end after it. -/
def comment : Scan Unit := do
  Scan.char '#'
  let _ ← Scan.takeWhile isText

/-- The end of a line, or of the text. -/
def lineEnd : Scan Unit := newline <|> Scan.atEnd

/-- What may follow an expression on its line. -/
def lineRest : Scan Unit := do
  blanks
  let _ ← Scan.optional comment
  lineEnd

/-- Blanks, line ends and comments between the items of an array. -/
def spacing : Scan Unit := do
  let _ ← Scan.many (newline <|> comment <|> do
    let _ ← Scan.takeSome isBlank)

/-- A character given by a number of hexadecimal digits. -/
def hexCharacter (count : Nat) : Scan Char := do
  let digits ← Scan.upTo (Scan.satisfy fun c ↦ (Hex.digitValue? c).isSome) count
  if digits.length ≠ count then failure
  match Hex.valueOf? 16 digits with
  | some value => if value.isValidChar then return Char.ofNat value else failure
  | none => failure

/-- What follows the backslash of an escape. -/
def escape : Scan Char := do
  match ← Scan.satisfy fun _ ↦ true with
  | 'b' => return '\x08'
  | 't' => return '\t'
  | 'n' => return '\n'
  | 'f' => return '\x0C'
  | 'r' => return '\r'
  | '"' => return '"'
  | '\\' => return '\\'
  | 'u' => hexCharacter 4
  | 'U' => hexCharacter 8
  | _ => failure

/-- A string in double quotes, with escapes. -/
def basicString : Scan String := do
  Scan.char '"'
  let content ← Scan.many
    (Scan.satisfy (fun c ↦ isText c && c != '"' && c != '\\') <|> (do
      Scan.char '\\'
      escape))
  Scan.char '"'
  return String.ofList content

/-- A string in single quotes, taken as it stands. -/
def literalString : Scan String := do
  Scan.char '\''
  let content ← Scan.takeWhile fun c ↦ isText c && c != '\''
  Scan.char '\''
  return String.ofList content

/-- One or two quotes that do not end a string of several lines. -/
def innerQuotes (quote : Char) : Scan (List Char) := do
  let quotes ← Scan.takeSome (· == quote)
  if quotes.length ≤ 2 then return quotes else failure

/-- The three quotes that end a string of several lines, and up to two more in front of them, which
belong to its content. -/
def closingQuotes (quote : Char) : Scan (List Char) := do
  let quotes ← Scan.takeSome (· == quote)
  if 3 ≤ quotes.length ∧ quotes.length ≤ 5 then return quotes.drop 3 else failure

/-- A line end in the content of a string. -/
def innerNewline : Scan (List Char) := do
  newline
  return ['\n']

/-- A backslash at the end of a line, which joins it with the next text. -/
def lineContinuation : Scan (List Char) := do
  Scan.char '\\'
  blanks
  newline
  let _ ← Scan.many (newline <|> do
    let _ ← Scan.takeSome isBlank)
  return []

/-- A string between triple quotes, with given pieces of content. -/
def longString (quote : Char) (piece : Scan (List Char)) : Scan String := do
  Scan.literal (String.ofList [quote, quote, quote])
  let _ ← Scan.optional newline
  let content ← Scan.many (piece <|> innerNewline <|> innerQuotes quote)
  let last ← closingQuotes quote
  return String.ofList (content.flatten ++ last)

/-- A string in triple double quotes, with escapes and joined lines. -/
def longBasicString : Scan String :=
  longString '"'
    (Scan.takeSome (fun c ↦ isText c && c != '"' && c != '\\') <|> lineContinuation <|> do
      Scan.char '\\'
      return [← escape])

/-- A string in triple single quotes, taken as it stands. -/
def longLiteralString : Scan String :=
  longString '\'' (Scan.takeSome fun c ↦ isText c && c != '\'')

/-- A string of any kind. -/
def string : Scan String := do
  if ← Scan.startsWith "\"\"\"" then longBasicString
  else if ← Scan.startsWith "'''" then longLiteralString
  else basicString <|> literalString

/-- A character of a key that is not quoted. -/
def isBareKey (c : Char) : Bool := c.isAlphanum || c == '_' || c == '-'

/-- A key without dots. -/
def simpleKey : Scan String :=
  basicString <|> literalString <|> (String.ofList <$> Scan.takeSome isBareKey)

/-- The most parts of a key and the deepest nesting of values, one less than which is allowed. -/
def depthLimit : Nat := 80

/-- A key with its parts between dots. -/
def key : Scan (List String) := do
  let parts ← Scan.separated (do
    blanks
    let part ← simpleKey
    blanks
    return part) (Scan.char '.')
  if parts.length < depthLimit then return parts else failure

end Toml

end DebugProbe
