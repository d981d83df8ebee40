import PipelinesOperator.Application.Status
import PipelinesOperator.Config.Basic

/-!
# Verdicts and the status they call for

A pass over an application ends in a verdict: the parameters are resolved, or the user has
something to mend.  The status tells the verdict in one condition.  It is written only when
it says something new, since every write brings the application back to the operator; and
the time of the condition moves only when the condition turns over.

## Main definitions

* `Verdict.status`: the status that tells a verdict
* `Status.tells`: whether a status tells a verdict already
* `Verdict.nextStatus`: the status to write, if any
-/

namespace PipelinesOperator

/-- What a pass over an application finds. -/
inductive Verdict where
  /-- The parameters are resolved; this is their hash. -/
  | resolved (hash : String)
  /-- The application is misconfigured, and how. -/
  | invalid (message : String)
  deriving DecidableEq, Repr

namespace Verdict

/-- The type of the condition that tells a verdict. -/
def conditionType : String := "ParametersResolved"

/-- The phase of an application. -/
def phase : Verdict → String
  | .resolved _ => "Resolved"
  | .invalid _ => "Failed"

/-- The status of the condition. -/
def conditionStatus : Verdict → String
  | .resolved _ => "True"
  | .invalid _ => "False"

/-- The reason of the condition. -/
def reason : Verdict → String
  | .resolved _ => "Resolved"
  | .invalid _ => "InvalidConfiguration"

/-- The message of the condition. -/
def message : Verdict → String
  | .resolved _ => "All parameters resolved and credentials are in place"
  | .invalid message => message

/-- The hash of the parameters, if there are any. -/
def hash? : Verdict → Option String
  | .resolved hash => some hash
  | .invalid _ => none

/-- The seconds after which the application is looked at again.  A user may mend it by
editing a secret, which by itself brings nothing back to the operator. -/
def requeue (v : Verdict) (intervals : Intervals) : UInt64 :=
  match v with
  | .resolved _ => intervals.requeue
  | .invalid _ => intervals.errorRequeue

/-- The condition that tells a verdict since a time. -/
def condition (v : Verdict) (since : Timestamp) : Condition where
  type := conditionType
  status := v.conditionStatus
  reason := v.reason
  message := v.message
  lastTransitionTime := some since

/-- The status that tells a verdict since a time, as of now. -/
def status (v : Verdict) (since now : Timestamp) : Status where
  phase := v.phase
  conditions := [v.condition since]
  parametersHash := v.hash?
  lastUpdated := some now

end Verdict

/-- Whether a condition tells a verdict. -/
def Condition.tells (c : Condition) (v : Verdict) : Bool :=
  c.status = v.conditionStatus ∧ c.reason = v.reason ∧ c.message = v.message

namespace Status

/-- The condition of a status that tells verdicts: the first of its type. -/
def resolution? (s : Status) : Option Condition :=
  s.conditions.find? fun c => c.type = Verdict.conditionType

/-- Whether a status tells a verdict already. -/
def tells (s : Status) (v : Verdict) : Bool :=
  s.phase = v.phase ∧ s.parametersHash = v.hash? ∧ (s.resolution?.any fun c => c.tells v)

/-- The time since which a status has had the condition of a verdict. -/
def since? (s : Status) (v : Verdict) : Option Timestamp :=
  (s.resolution?.filter fun c => c.status = v.conditionStatus).bind Condition.lastTransitionTime

end Status

namespace Verdict

/-- The status to write for a verdict, or none when the current one tells it already. -/
def nextStatus (v : Verdict) (current : Option Status) (now : Timestamp) : Option Status :=
  -- The time of the condition is kept as long as its status does not turn over.
  if current.any fun s => s.tells v then none
  else some (v.status ((current.bind fun s => s.since? v).getD now) now)

end Verdict

end PipelinesOperator
