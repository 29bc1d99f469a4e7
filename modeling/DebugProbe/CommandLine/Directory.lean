import DebugProbe.Bytes

/-!
# Files by name

The files that a run can read. A name may go through its own directory by single dots, and slashes
may be doubled, without meaning another file.
Specification: `SPEC_FULL.md` §6.
-/

namespace DebugProbe

/-- Files with their names. -/
structure Directory where
  files : List (String × Bytes) := []

namespace Directory

/-- Splits a name at its slashes. -/
def splitSlashes : List Char → List (List Char)
  | [] => [[]]
  | c :: rest =>
    match splitSlashes rest with
    | [] => [[c]]
    | part :: parts => if c = '/' then [] :: part :: parts else (c :: part) :: parts

/-- Whether a part of a name stays in its directory. -/
def stays (part : List Char) : Bool := part == [] || part == ['.']

/-- A name without the parts that stay in its directory; `none` if the last part does, because such
a name cannot be that of a file. -/
def resolve? (name : String) : Option (List (List Char)) :=
  let parts := splitSlashes name.toList
  match parts.getLast? with
  | some last =>
    if stays last then none
    else
      let inner := parts.filter (!stays ·)
      some (if name.toList.head? = some '/' then [] :: inner else inner)
  | none => none

/-- The content of a file. -/
def read? (directory : Directory) (name : String) : Option Bytes := do
  let wanted ← resolve? name
  let (_, content) ← directory.files.find? fun (other, _) ↦ resolve? other == some wanted
  return content

end Directory

end DebugProbe
