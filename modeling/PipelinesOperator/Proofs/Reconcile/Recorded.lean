import PipelinesOperator.Proofs.Reconcile.Outcome

/-!
# The status that is sent is the one that is read

The operator writes a status in its own form, and the cluster lays it over what the object has and
shows the outcome in the form of the resource.  The two forms differ in what they leave out and in
what they write as null, and the patch takes away what is null.  All the same, whatever status the
object had, what is read from it behind the patch is the status that was sent; so the verdict that
called for it calls for nothing more.

## Main definitions

* `Status.Readable old`: an object that has `old` for its status can be read
* `Manifest.statusPatch`: what is sent for a status

## Main results

* `Manifest.get?_mergePatch_statusPatch`: what the patch does to the status of an object
* `Status.written_status_is_read_back`: what is read behind the patch is what was sent
-/

namespace PipelinesOperator

/-- An object may have no status, or null for one, or else one that can be read. -/
def Status.Readable (old : Option Json) : Prop :=
  ∀ j ∈ old, j = .null ∨ ∃ t, (Status.shape .wire).ofJson j = .ok t

/-- What is sent for a status. -/
def Manifest.statusPatch (s : Status) : Json :=
  .obj [("status", (Status.shape .hub).write s)]

variable {stored : List (String × Json)} {old : Option Json}

/-- A request for a status carries it as a patch. -/
theorem Manifest.body_of_statusRequest {space name : String} {s : Status} {q : Request}
    (h : statusRequest space name s = .ok q) :
    q.body = some ⟨"application/merge-patch+json", statusPatch s⟩ :=
  (statusRequest_eq_ok_iff.mp h).content

/-- The patch lays the status over the one that the object had, if it had one. -/
theorem Manifest.get?_mergePatch_statusPatch (h : Distinct ["status"] (stored.map Prod.fst))
    (s : Status) : ((Json.obj stored).mergePatch (statusPatch s)).get? "status" =
      some ((((Json.obj stored).get? "status").getD .null).mergePatch
        ((Status.shape .hub).write s)) := by
  have hkey : "status" ∈ ["status"] := List.mem_singleton_self "status"
  have hpatch : (Status.shape .hub).write s ≠ .null := Json.noConfusion
  rw [statusPatch, Json.mergePatch_member hpatch, Json.get?_eq_lookup, Json.members,
    lookup_reverse (Json.distinct_setMember h _ _) hkey, Json.lookup_setMember, if_pos rfl,
    Json.get?_eq_lookup, Json.members, lookup_reverse h hkey]

/-- A status that could be read, or that there was none, has no key twice. -/
theorem Status.Readable.distinct (h : Readable old) :
    Distinct keys ((old.getD .null).members.map Prod.fst) := by
  cases old with
  | none => exact List.Pairwise.nil
  | some j =>
    rcases h j rfl with rfl | ⟨t, ht⟩
    · exact List.Pairwise.nil
    · exact distinct_of_ofJson ht

/-- **The status that is sent is the one that is read.**  All requests for a status send the same
patch.  Behind the patch, whatever readable status the object had, its status is read as the one
that was sent; and if that was written for a verdict, the verdict calls for no other at any later
time. -/
theorem Status.written_status_is_read_back (hdistinct : Distinct ["status"] (stored.map Prod.fst))
    (hreadable : Readable ((Json.obj stored).get? "status")) (s : Status) :
    (∀ space name q, Manifest.statusRequest space name s = .ok q →
      q.body = some ⟨"application/merge-patch+json", Manifest.statusPatch s⟩) ∧
    ∃ j t, ((Json.obj stored).mergePatch (Manifest.statusPatch s)).get? "status" = some j ∧
      (Status.shape .wire).ofJson j = .ok t ∧ t.toHub = s ∧
      ∀ v current now, Verdict.nextStatus v current now = some s →
        ∀ later, v.nextStatus (some t.toHub) later = none := by
  refine ⟨fun space name q h => Manifest.body_of_statusRequest h, _, s.toWire,
    Manifest.get?_mergePatch_statusPatch hdistinct s, ofJson_mergePatch hreadable.distinct s,
    s.toHub_toWire, fun v current now hnext later => ?_⟩
  rw [toHub_toWire]
  exact Verdict.nextStatus_of_nextStatus hnext later

/-- An object with a hash and a member of its own in its status, over which the operator lays the
status of an application that is misconfigured. -/
theorem Status.written_status_is_read_back_mishap :
    let had : List (String × Json) := [("phase", .str "Resolved"), ("conditions", .arr []),
      ("parametersHash", .str "64b0d172"), ("observed", .ofNat 3), ("lastUpdated", .null)]
    let stored : List (String × Json) := [("kind", .str Manifest.kind), ("status", .obj had)]
    let v := Verdict.invalid "no object storage"
    Distinct ["status"] (stored.map Prod.fst) ∧ Readable ((Json.obj stored).get? "status") ∧
    ∀ now later, ∃ j t,
      ((Json.obj stored).mergePatch (Manifest.statusPatch (v.status now now))).get? "status" =
        some j ∧ j.get? "observed" = some (.ofNat 3) ∧ j.get? "parametersHash" = none ∧
      (Status.shape .wire).ofJson j = .ok t ∧ t.toHub = v.status now now ∧
      v.nextStatus (some t.toHub) later = none := by
  intro had stored v
  have hdistinct : Distinct ["status"] (stored.map Prod.fst) := by decide
  have hreadable : Readable ((Json.obj stored).get? "status") := by
    intro j hj
    obtain rfl : Json.obj had = j := Option.some.inj hj
    exact .inr ⟨⟨"Resolved", [], some "64b0d172", none⟩, rfl⟩
  refine ⟨hdistinct, hreadable, fun now later => ?_⟩
  obtain ⟨-, j, t, hj, ht, hsame, hquiet⟩ :=
    written_status_is_read_back hdistinct hreadable (v.status now now)
  have hpatched : some j = some _ := hj.symm.trans
    (Manifest.get?_mergePatch_statusPatch hdistinct (v.status now now))
  obtain rfl := Option.some.inj hpatched
  exact ⟨_, t, hj, rfl, rfl, ht, hsame, hquiet v none now rfl later⟩

end PipelinesOperator
