import PipelinesOperator.Application.Component

/-!
# The status of an application

The status tells users what became of their application: a phase, the hash of the parameters
it was resolved to, and conditions with the time at which each last changed.
-/

namespace PipelinesOperator

/-- A condition of an application. -/
structure Condition (face : Face := .hub) where
  type : String
  status : String
  reason : String
  message : String
  lastTransitionTime : Option Timestamp
  deriving DecidableEq, Repr

/-- The status of an application. -/
structure Status (face : Face := .hub) where
  phase : String
  conditions : List (Condition face)
  parametersHash : Option String
  lastUpdated : Option Timestamp
  deriving DecidableEq, Repr

/-- The shape of a condition. -/
def Condition.shape (face : Face) : Shape (Condition face) :=
  .struct "DspaCondition"
    (.cons (.required "type" none) .text <|
     .cons (.required "status" none) .text <|
     .cons (.required "reason" none) .text <|
     .cons (face.defaulted "message" "message" "") .text <|
     .cons (.nullable "lastTransitionTime" none) (.optional (.timestamp true)) .nil)
    (fun (a, b, c, d, e, _) => ⟨a, b, c, d, e⟩)
    (fun c => (c.type, c.status, c.reason, c.message, c.lastTransitionTime, ()))

/-- The member that holds the conditions: on the wire it is left out when there are none. -/
def Status.conditionsField : (face : Face) → Field (List (Condition face))
  | .wire => ⟨"conditions", some [], some [], List.isEmpty, none⟩
  | .hub => .required "conditions" none

/-- The shape of a status. -/
def Status.shape (face : Face) : Shape (Status face) :=
  .struct "DspaStatus"
    (.cons (face.defaulted "phase" "phase" "") .text <|
     .cons (conditionsField face) (.list (Condition.shape face)) <|
     .cons (face.optional "parametersHash" "parametersHash") (.optional .text) <|
     .cons (.nullable "lastUpdated" none) (.optional (.timestamp true)) .nil)
    (fun (a, b, c, d, _) => ⟨a, b, c, d⟩)
    (fun s => (s.phase, s.conditions, s.parametersHash, s.lastUpdated, ()))

end PipelinesOperator
