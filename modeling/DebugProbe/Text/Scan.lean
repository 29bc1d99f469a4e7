/-!
# Scanners

A scanner takes a value off the front of a text, or fails. Scanners are combined in the usual ways;
an alternative starts over where the failed one started, and a repetition goes on as long as its
item succeeds, which is at most as often as there are characters left.
Specification: `SPEC_FULL.md` §9.
-/

namespace DebugProbe

/-- Takes a value off the front of a text. -/
abbrev Scan (α : Type) := StateT (List Char) Option α

namespace Scan

variable {α β : Type}

/-- The next character, which stays where it is. -/
def peek? : Scan (Option Char) := fun text ↦ some (text.head?, text)

/-- Whether the text goes on with the given characters, which stay where they are. -/
def startsWith (characters : String) : Scan Bool :=
  fun text ↦ some (characters.toList.isPrefixOf text, text)

/-- One character that passes a test. -/
def satisfy (test : Char → Bool) : Scan Char
  | [] => none
  | c :: rest => if test c then some (c, rest) else none

/-- A given character. -/
def char (expected : Char) : Scan Unit := do
  let _ ← satisfy (· == expected)

/-- The given characters. -/
def literal (characters : String) : Scan Unit := fun text ↦
  if characters.toList.isPrefixOf text then some ((), text.drop characters.length) else none

/-- All characters up to the first that fails a test, perhaps none. -/
def takeWhile (test : Char → Bool) : Scan (List Char) :=
  fun text ↦ some (text.takeWhile test, text.dropWhile test)

/-- All characters up to the first that fails a test, at least one. -/
def takeSome (test : Char → Bool) : Scan (List Char) := do
  let taken ← takeWhile test
  if taken.isEmpty then failure else return taken

/-- A value if there is one. -/
def optional (item : Scan α) : Scan (Option α) := some <$> item <|> pure none

/-- Nothing is left. -/
def atEnd : Scan Unit
  | [] => some ((), [])
  | _ => none

/-- At most `count` items. -/
def upTo (item : Scan α) : (count : Nat) → Scan (List α)
  | 0 => pure []
  | count + 1 => (do
      let first ← item
      let rest ← upTo item count
      return first :: rest) <|> pure []

/-- As many items as there are. -/
def many (item : Scan α) : Scan (List α) := do
  upTo item (← get).length

/-- One or more items with separators between them. -/
def separated (item : Scan α) (separator : Scan β) : Scan (List α) := do
  let first ← item
  let rest ← many (do
    let _ ← separator
    item)
  return first :: rest

/-- The value of a text that a scanner takes as a whole. -/
def whole? (item : Scan α) (text : List Char) : Option α :=
  match item text with
  | some (value, []) => some value
  | _ => none

end Scan

end DebugProbe
