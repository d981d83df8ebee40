import PipelinesOperator.Config.Basic
import PipelinesOperator.Document.Label
import PipelinesOperator.Shape.Read

/-!
# Layers of the configuration

The configuration is put together from layers, later ones over earlier ones: what is built
in, a file, the environment, single overrides.  Each value remembers the layer it comes
from, so that whoever finds it at fault can name the culprit.

## Main definitions

* `Tree.ofDoc`: a document as a layer
* `Tree.merge`: one layer over another
-/

namespace PipelinesOperator.Config

/-- The format of a configuration file. -/
inductive Format where
  | json
  | yaml
  deriving DecidableEq, Repr

/-- The layer that a value comes from. -/
inductive Source where
  /-- What is built in. -/
  | standard
  /-- A file. -/
  | file (path : String) (format : Format)
  /-- The environment. -/
  | environment
  /-- A single value. -/
  | override
  /-- A layer that does not exist. -/
  | nowhere
  deriving DecidableEq, Repr

/-- The layer that a value of some layer comes from, by the label on it.  The layers of a run
have the numbers one, for what is built in, two, for the file, and three, for the environment.
Zero says nothing, and neither do the two highest of sixty-four bits. -/
def Source.ofLabel (own : Source) : Label → Source
  | none => own
  | some n =>
    match n % 0x4000000000000000 with
    | 0 => own
    | 1 => .standard
    | 2 => own
    | 3 => .environment
    | _ => .nowhere

/-- A layer, or several merged into one. -/
abbrev Tree := Doc Source Empty

/-- The members of a tree that is a table. -/
abbrev Members := List (Key Source Empty × Tree)

namespace Tree

/-- Members with one key set, in increasing order of the keys. -/
def setMember (key : Key Source Empty) (value : Tree) : Members → Members
  | [] => [(key, value)]
  | m :: ms =>
    if key.name < m.1.name then (key, value) :: m :: ms
    else if key.name = m.1.name then (key, value) :: ms
    else m :: setMember key value ms

/-- The value of a key. -/
def member? (name : String) (ms : Members) : Option Tree :=
  (ms.find? fun m => m.1.name == name).map Prod.snd

variable {μ : Type}

mutual

/-- A document as a layer: the members of each table in order of their keys, the last one of
a key counting.  The marks of the document say where its values come from. -/
def ofDoc (source : μ → Source) : Doc μ Empty → Tree
  | .null m => .null (source m)
  | .bool m b => .bool (source m) b
  | .num m n => .num (source m) n
  | .str m s => .str (source m) s
  | .arr m items _ => .arr (source m) (ofItems source items) none
  | .obj m members _ => .obj (source m) (ofMembers source members []) none
  | .bad _ fault => nomatch fault

/-- The items of an array as trees. -/
def ofItems (source : μ → Source) : List (Doc μ Empty) → List Tree
  | [] => []
  | d :: ds => ofDoc source d :: ofItems source ds

/-- The members of an object set one after the other. -/
def ofMembers (source : μ → Source) : List (Key μ Empty × Doc μ Empty) → Members → Members
  | [], done => done
  | m :: ms, done =>
    ofMembers source ms
      (setMember ⟨m.1.name, source m.1.mark, none⟩ (ofDoc source m.2) done)

end

mutual

/-- A tree over another one: a table is merged into a table member by member, and anything
else takes the place of what was there. -/
def merge (old : Tree) : Tree → Tree
  | .obj source members broken =>
    match old with
    | .obj _ olds _ => .obj source (mergeMembers olds members) none
    | _ => .obj source members broken
  | .null source => .null source
  | .bool source b => .bool source b
  | .num source n => .num source n
  | .str source s => .str source s
  | .arr source items broken => .arr source items broken
  | .bad _ fault => nomatch fault

/-- Members merged one after the other into those of a table. -/
def mergeMembers (olds : Members) : Members → Members
  | [] => olds
  | (key, value) :: rest =>
    let merged := match member? key.name olds with
      | some old => merge old value
      | none => value
    mergeMembers (setMember key merged olds) rest

end

end Tree

/-- The manner of the configuration: items behind the last field of a record are passed
over. -/
def manner : Manner Source Empty := ⟨fun _ _ _ _ => none⟩

end PipelinesOperator.Config
