import PipelinesOperator.Config.Basic

/-!
# The registry of default images

The registry is the configuration laid flat: every text in it that is not empty stands under
its dotted path.  Where the registry has nothing a sentinel takes the place of the image, so
that a deployment fails when the image is pulled and not before.
-/

namespace PipelinesOperator

/-- Default values by their dotted paths. -/
structure Registry where
  values : Table String
  deriving DecidableEq, Repr

namespace Registry

/-- What stands for an image that nobody has configured. -/
def unset : String := "MustSetInConfig"

/-- The path of a member one step further in; the root has the empty path. -/
def extend (path key : String) : String := if path = "" then key else path ++ "." ++ key

mutual

/-- Adds every text of a document that is not empty under its path. -/
def flatten (values : Table String) (path : String) : Json → Table String
  | .str s => if s = "" then values else values.insert path s
  | .obj members => flattenMembers values path members
  | .null => values
  | .bool _ => values
  | .num _ => values
  | .arr _ => values

/-- Adds the texts of the members of an object. -/
def flattenMembers (values : Table String) (path : String) :
    List (String × Json) → Table String
  | [] => values
  | m :: ms => flattenMembers (flatten values (extend path m.1) m.2) path ms

end

/-- The registry of a configuration. -/
def ofConfig (c : Config) : Registry := ⟨flatten {} "" (Config.shape.write c)⟩

/-- The registry of pairs of path and value: empty values are dropped, and of the values of
one path the last one counts. -/
def ofPairs (pairs : List (String × String)) : Registry :=
  ⟨Table.ofList (pairs.filter fun p => p.2 ≠ "")⟩

/-- The value of a path. -/
def get? (r : Registry) (path : String) : Option String := r.values.get? path

/-- The value of a path, or the sentinel. -/
def lookup (r : Registry) (path : String) : String := (r.get? path).getD unset

/-- The paths that are needed and have no value, in order. -/
def missing (r : Registry) : List String :=
  (ImagePath.needed.map ImagePath.text).filter fun path => (r.get? path).isNone

end Registry

end PipelinesOperator
