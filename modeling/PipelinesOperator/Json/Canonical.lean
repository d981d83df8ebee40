import PipelinesOperator.Json.Compact
import PipelinesOperator.Table

/-!
# The canonical form of a document

The members of every object stand in increasing order of their keys, and of members with
one key the last one counts.  Two documents that differ in the order of members alone have
one canonical form, and so one canonical text.
-/

namespace PipelinesOperator.Json

mutual

/-- The document with the members of every object in order. -/
def canonical : Json → Json
  | .arr items => .arr (canonicalItems items)
  | .obj members => .obj (Table.ofList (canonicalMembers members)).entries
  | .null => .null
  | .bool b => .bool b
  | .num n => .num n
  | .str s => .str s

/-- Each document in its canonical form. -/
def canonicalItems : List Json → List Json
  | [] => []
  | j :: js => canonical j :: canonicalItems js

/-- Each member with its value in canonical form, in the given order. -/
def canonicalMembers : List (String × Json) → List (String × Json)
  | [] => []
  | m :: ms => (m.1, canonical m.2) :: canonicalMembers ms

end

/-- The compact text of the canonical form. -/
def canonicalText (j : Json) : String := j.canonical.text

end PipelinesOperator.Json
