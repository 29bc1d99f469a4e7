/-!
# Setting values

The values that configuration layers consist of. Tables are kept in the order of their keys, each
key once. Merging puts one value over another: tables are merged key by key, everything else is
replaced as a whole.
Specification: `SPEC_FULL.md` §9.
-/

namespace DebugProbe

/-- Pairs in the order of their keys. -/
abbrev Dictionary (α : Type) := List (String × α)

namespace Dictionary

variable {α : Type}

/-- The value of a key. -/
def find? (key : String) : Dictionary α → Option α
  | [] => none
  | (other, value) :: rest => if other = key then some value else find? key rest

/-- The pairs with a new value for a key. -/
def insert (key : String) (value : α) : Dictionary α → Dictionary α
  | [] => [(key, value)]
  | (other, old) :: rest =>
    if key < other then (key, value) :: (other, old) :: rest
    else if key = other then (key, value) :: rest
    else (other, old) :: insert key value rest

end Dictionary

/-- A value in a configuration layer. -/
inductive Setting where
  | text (content : String)
  /-- A single character, which serves as a text but does not name anything. -/
  | character (content : Char)
  | boolean (value : Bool)
  | integer (value : Int)
  /-- A number with a fraction or an exponent; no setting takes one. -/
  | decimal
  | array (items : List Setting)
  | table (entries : List (String × Setting))
  deriving Repr

namespace Setting

mutual

/-- One value put over another. -/
def merge : Setting → Setting → Setting
  | .table base, .table upper => .table (mergeEntries base upper)
  | _, upper => upper

/-- Pairs put over other pairs, one after the other. -/
def mergeEntries (base : List (String × Setting)) : List (String × Setting) →
    List (String × Setting)
  | [] => base
  | (key, value) :: rest =>
    let merged := match Dictionary.find? key base with
      | some old => merge old value
      | none => value
    mergeEntries (Dictionary.insert key merged base) rest

end

end Setting

end DebugProbe
