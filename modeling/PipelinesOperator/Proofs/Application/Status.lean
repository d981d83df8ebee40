import PipelinesOperator.Proofs.Application.Conversion
import PipelinesOperator.Proofs.Json.MergePatch
import PipelinesOperator.Proofs.Shape.RoundTrip
import PipelinesOperator.Reconcile.Verdict

/-!
# The status that is written is the one that is read back

The operator lays the status it writes over the one an object has.  Whatever that was, provided
that it could be read as a status at all, the outcome reads as the status that was written: a hash
that there is no more is taken away, and members that no status has do no harm.

## Main results

* `Status.ofJson_mergePatch`: a status laid over another is read back
* `Verdict.tells_status`: the status of a verdict tells it
* `Verdict.nextStatus_status`: behind the status of a verdict nothing is left to be written
-/

namespace PipelinesOperator

open Shape

/-- A timestamp, or that there is none, is read back from what is written. -/
theorem Timestamp.ofJson_write (t : Option Timestamp) :
    (Shape.optional (.timestamp true)).ofJson ((Shape.optional (.timestamp true)).write t) =
      .ok t :=
  Shape.ofJson_write _ (keeps_of_lossless (by simp) t)

/-- A condition is read back from what the operator writes. -/
theorem Condition.ofJson_write (c : Condition) :
    (Condition.shape .wire).ofJson ((Condition.shape .hub).write c) = .ok c.toWire := by
  refine ofJson_struct_eq_ok.mpr ⟨?_, (c.type, c.status, c.reason, c.message,
    c.lastTransitionTime, ()),
    ⟨rfl, rfl, rfl, rfl, Timestamp.ofJson_write c.lastTransitionTime, trivial⟩, rfl⟩
  change Distinct _ ["type", "status", "reason", "message", "lastTransitionTime"]
  decide

namespace Status

/-- The keys of a status. -/
def keys : List String := ["phase", "conditions", "parametersHash", "lastUpdated"]

/-- The members that the operator writes. -/
def patch (s : Status) : List (String × Json) := ((Status.shape .hub).write s).members

theorem nodup_patch (s : Status) : (s.patch.map Prod.fst).Nodup := by
  change keys.Nodup
  decide

/-- A status that could be read has no key twice. -/
theorem distinct_of_ofJson {old : Json} {t : Status .wire}
    (h : (Status.shape .wire).ofJson old = .ok t) : Distinct keys (old.members.map Prod.fst) := by
  cases old with
  | obj members => exact (ofJson_struct_eq_ok.mp h).1
  | _ => exact List.Pairwise.nil

/-- A hash, or that there is none, is read back from what is left behind the patch. -/
theorem takes_hash (old : Option Json) (hash : Option String) :
    Takes (Face.wire.optional "parametersHash" "parametersHash") (.optional .text)
      (Json.overlay old ((Shape.optional .text).write hash)) hash := by
  cases hash with
  | none => rfl
  | some hash => rfl

/-- A time, or that there is none, is read back from what is left behind the patch. -/
theorem takes_time (old : Option Json) (t : Option Timestamp) :
    Takes (.nullable "lastUpdated" none) (.optional (.timestamp true))
      (Json.overlay old ((Shape.optional (.timestamp true)).write t)) t := by
  cases t with
  | none => rfl
  | some t => exact Timestamp.ofJson_write (some t)

/-- A status that is laid over what has none of its keys twice is read back.  Behind the patch a key
that is always written has the new value, and one that may be left out the old value overlaid. -/
theorem ofJson_mergePatch {old : Json} (h : Distinct keys (old.members.map Prod.fst))
    (s : Status) :
    (Status.shape .wire).ofJson (old.mergePatch ((Status.shape .hub).write s)) =
      .ok s.toWire := by
  have hlookup := Json.lookup_mergeMembers old.members (nodup_patch s)
  have hphase : (Json.mergeMembers old.members s.patch).lookup "phase" = some (.str s.phase) :=
    hlookup "phase"
  have hconditions : (Json.mergeMembers old.members s.patch).lookup "conditions" =
      some (.arr (s.conditions.map (Condition.shape .hub).write)) := hlookup "conditions"
  have hhash : (Json.mergeMembers old.members s.patch).lookup "parametersHash" =
      Json.overlay (old.members.lookup "parametersHash")
        ((Shape.optional .text).write s.parametersHash) := hlookup "parametersHash"
  have htime : (Json.mergeMembers old.members s.patch).lookup "lastUpdated" =
      Json.overlay (old.members.lookup "lastUpdated")
        ((Shape.optional (.timestamp true)).write s.lastUpdated) := hlookup "lastUpdated"
  refine ofJson_struct_eq_ok.mpr ⟨Json.distinct_mergeMembers h, (s.phase,
    s.conditions.map Condition.toWire, s.parametersHash, s.lastUpdated, ()),
    ⟨?_, ?_, ?_, ?_, trivial⟩, rfl⟩
  · change Takes _ _ ((Json.mergeMembers old.members s.patch).lookup "phase") _
    rw [hphase]
    rfl
  · change Takes _ _ ((Json.mergeMembers old.members s.patch).lookup "conditions") _
    rw [hconditions]
    exact ofJson_list_map fun c _ => Condition.ofJson_write c
  · change Takes _ _ ((Json.mergeMembers old.members s.patch).lookup "parametersHash") _
    rw [hhash]
    exact takes_hash _ s.parametersHash
  · change Takes _ _ ((Json.mergeMembers old.members s.patch).lookup "lastUpdated") _
    rw [htime]
    exact takes_time _ s.lastUpdated

end Status

namespace Verdict

/-- The status of a verdict tells it. -/
theorem tells_status (v : Verdict) (since now : Timestamp) :
    (v.status since now).tells v = true := by
  simp [status, Status.tells, Status.resolution?, condition, Condition.tells]

/-- Behind the status of a verdict nothing is left to be written. -/
theorem nextStatus_status (v : Verdict) (since now later : Timestamp) :
    v.nextStatus (some (v.status since now)) later = none := by
  rw [nextStatus, Option.any_some, tells_status, if_pos rfl]

end Verdict

end PipelinesOperator
