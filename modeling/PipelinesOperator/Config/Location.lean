import PipelinesOperator.Text.Character

/-!
# Where a configuration file is

A path that starts at the root of the file system names one file.  Any other path is looked
for in the working directory, and if there is no such file then in the directories around
it.  Messages name a file by the way from the working directory if that is shorter.
-/

namespace PipelinesOperator.Config.Location

/-- The steps of a path.  Empty ones and dots lead nowhere. -/
def steps (path : String) : List String :=
  (Text.splitOn '/' path).filter fun step => step ≠ "" ∧ step ≠ "."

/-- Whether a path starts at the root. -/
def isRooted (path : String) : Bool := path.toList.head? = some '/'

/-- The path of some steps from the root. -/
def rooted (steps : List String) : String := "/" ++ Text.join "/" steps

/-- A path in a directory. -/
def within (directory : List String) (path : String) : String :=
  if directory.isEmpty then "/" ++ path else rooted directory ++ "/" ++ path

/-- The paths of the files that a path can mean, the first that exists being meant. -/
def candidates (directory path : String) : List String :=
  if isRooted path then [path]
  else
    let all := steps directory
    (List.range (all.length + 1)).map fun up => within (all.take (all.length - up)) path

/-- What two lists of steps start with alike, taken off both. -/
def apart : List String → List String → List String × List String
  | a :: as, b :: bs => if a = b then apart as bs else (a :: as, b :: bs)
  | as, bs => (as, bs)

/-- How messages name a file that is given by a path from the root. -/
def shown (directory path : String) : String :=
  let (up, down) := apart (steps directory) (steps path)
  let relative := up.map (fun _ => "..") ++ down
  if relative.length < (steps path).length + 1 then Text.join "/" relative else path

end PipelinesOperator.Config.Location
