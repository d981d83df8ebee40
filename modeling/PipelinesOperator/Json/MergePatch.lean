import PipelinesOperator.Json.Basic

/-!
# Merge patches

A merge patch is a document that is laid over another: an object is merged member by
member, a `null` in it removes the member, and anything else takes the place of what was
there.
-/

namespace PipelinesOperator.Json

/-- Members with one key set: in its place if the key is there, else at the end. -/
def setMember (key : String) (value : Json) : List (String × Json) → List (String × Json)
  | [] => [(key, value)]
  | m :: ms => if m.1 = key then (key, value) :: ms else m :: setMember key value ms

mutual

/-- The document with a patch laid over it. -/
def mergePatch (target : Json) : Json → Json
  | .obj patch => .obj (mergeMembers target.members patch)
  | .null => .null
  | .bool b => .bool b
  | .num n => .num n
  | .str s => .str s
  | .arr items => .arr items

/-- Members with those of a patch laid over them, one after the other. -/
def mergeMembers (target : List (String × Json)) : List (String × Json) → List (String × Json)
  | [] => target
  | (key, .null) :: rest => mergeMembers (target.filter (fun m => m.1 ≠ key)) rest
  | (key, value) :: rest =>
    let old := ((target.find? (fun m => m.1 == key)).map Prod.snd).getD .null
    mergeMembers (setMember key (mergePatch old value) target) rest

end

end PipelinesOperator.Json
