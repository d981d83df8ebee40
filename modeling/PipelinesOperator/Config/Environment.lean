import PipelinesOperator.Config.Inline
import PipelinesOperator.Config.Tree

/-!
# The environment as a layer

A variable whose name starts with `DSPO__` sets a value of the configuration.  The rest of
its name is the path of the value, with two underscores between the keys.
-/

namespace PipelinesOperator.Config.Environment

/-- What the names of the variables start with. -/
def lead : String := "DSPO__"

/-- The characters with each pair of underscores replaced by a dot. -/
def dotted : List Char → List Char
  | '_' :: '_' :: rest => '.' :: dotted rest
  | c :: rest => c :: dotted rest
  | [] => []

/-- The keys that the name of a variable leads along, if it names a value at all.  Blanks
around the name count for nothing, and neither do those around what stands behind the lead. -/
def path? (name : String) : Option (List String) :=
  let cs := Text.trim name.toList
  let size := lead.length
  if (cs.take size).map Char.toUpper = lead.toList then
    let keys := Text.splitOn '.' (String.ofList (Text.trim (dotted (cs.drop size))))
    -- Separators in a row would enclose a key without a name.
    if keys.contains "" then none else some (keys.map Text.lowerAscii)
  else none

/-- The layer of some variables, in increasing order of their names. -/
def layer (settings : Table String) : Tree :=
  settings.entries.foldl (fun tree v =>
    match path? v.1 with
    | some path =>
      -- Merged one after the other, so a variable adds to the tables of those before it.
      tree.merge (Tree.ofDoc (fun _ => .environment) ((Inline.read v.2).nest () path))
    | none => tree) (.obj .environment [] none)

end PipelinesOperator.Config.Environment
