import PipelinesOperator.Event
import PipelinesOperator.Json.Basic

/-!
# Records of the log

What is logged is a record: how much it matters, whose it is, and its fields.
-/

namespace PipelinesOperator.Log

/-- A record of the log. -/
structure Record where
  level : Level
  target : String
  fields : List (String × String)
  deriving DecidableEq, Repr

namespace Record

/-- Whose records those of the program are. -/
def programTarget : String := "data_science_pipelines_operator"

/-- The record of an event of the program. -/
def ofEvent (e : Event) : Record := ⟨e.level, programTarget, e.fields⟩

/-- A record as a document. -/
def toJson (r : Record) : Json :=
  .obj ([("level", .str r.level.text)] ++ r.fields.map (fun f => (f.1, .str f.2)) ++
    [("target", .str r.target)])

end Record

end PipelinesOperator.Log
