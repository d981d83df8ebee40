import PipelinesOperator.Proofs.Cluster.Target

/-!
# Names that can be asked for

The name of a secret stands in the target of the request that fetches it, so there are names for
which there is no such request: the empty one, and every name with a character in it that no target
may hold.  The names that Kubernetes accepts are none of these, and neither are the names that the
operator makes of them.

## Main definitions

* `LegalName`: names of the characters that Kubernetes accepts
* `Askable`: names under which a secret can be asked for
* `Target.InPath`: texts that may stand in a path

## Main results

* `Target.isSome_ofText?_append`: what can be written behind the beginning of a path
* `askable_databaseSecret`, `askable_storageSecret`: the operator's own secrets can be asked for
* `Secret.exists_getRequest_iff`: for which secrets there is a request
* `Secret.exists_createRequest`, `Manifest.exists_statusRequest`: secrets can be made, and statuses
  be written
-/

namespace PipelinesOperator

/-- A name that is not empty and has no characters but those that Kubernetes accepts: lower-case
letters, digits, hyphens and dots.  What it asks for beyond that is not needed here. -/
structure LegalName (s : String) : Prop where
  nonempty : s ≠ ""
  chars : ∀ c ∈ s.toList, c.isLower ∨ c.isDigit ∨ c = '-' ∨ c = '.'

instance (s : String) : Decidable (LegalName s) :=
  have : Decidable (∀ c ∈ s.toList, c.isLower ∨ c.isDigit ∨ c = '-' ∨ c = '.') :=
    List.decidableBAll _ s.toList
  decidable_of_iff (s ≠ "" ∧ ∀ c ∈ s.toList, c.isLower ∨ c.isDigit ∨ c = '-' ∨ c = '.')
    ⟨fun h => ⟨h.1, h.2⟩, fun h => ⟨h.nonempty, h.chars⟩⟩

/-- A name under which a secret can be asked for: it is not empty, and all of its characters may
stand in a target where they do. -/
structure Askable (name : String) : Prop where
  named : name ≠ ""
  written : (Target.ofText? name.toList).isSome = true

namespace Target

/-- A text that may stand in a path. -/
def InPath (s : String) : Prop := ∀ c ∈ s.toList, inPath c = true

instance (s : String) : Decidable (InPath s) := List.decidableBAll _ s.toList

theorem InPath.append {s s' : String} (h : InPath s) (h' : InPath s') : InPath (s ++ s') := by
  intro c hc
  rw [String.toList_append] at hc
  exact (List.mem_append.mp hc).elim (h c) (h' c)

variable {before text : String}

theorem not_inPath_questionMark : inPath '?' = false := by decide

theorem not_inPath_numberSign : inPath '#' = false := by decide

/-- Behind a text that may stand in a path, a target can be written that could be by itself.
Neither mark that ends a path stands in that text, so nothing of it is cut off. -/
theorem isSome_ofText?_append (h : InPath before) (text : String) :
    (ofText? (before ++ text).toList).isSome = (ofText? text.toList).isSome := by
  have hkept : ∀ c ∈ before.toList, decide (c ≠ '#') = true := by
    intro c hc
    refine decide_eq_true fun heq => ?_
    rw [heq] at hc
    exact Bool.false_ne_true (not_inPath_numberSign.symm.trans (h _ hc))
  have hpath : ∀ c ∈ before.toList, decide (c ≠ '?') = true := by
    intro c hc
    refine decide_eq_true fun heq => ?_
    rw [heq] at hc
    exact Bool.false_ne_true (not_inPath_questionMark.symm.trans (h _ hc))
  have hall : before.toList.all inPath = true := List.all_eq_true.mpr h
  simp only [ofText?, String.toList_append]
  rw [List.takeWhile_append_of_pos hkept, List.takeWhile_append_of_pos hpath,
    List.dropWhile_append_of_pos hpath, List.all_append, hall, Bool.true_and]
  split
  · rfl
  · rfl

/-- A text that may stand in a path can be written by itself. -/
theorem InPath.isSome_ofText? {s : String} (h : InPath s) : (ofText? s.toList).isSome = true := by
  have happend := isSome_ofText?_append h ""
  rw [String.append_empty] at happend
  rw [happend]
  decide

end Target

/-- The characters of legal names may stand in a path. -/
theorem inPath_of_legal {c : Char} (h : c.isLower ∨ c.isDigit ∨ c = '-' ∨ c = '.') :
    Target.inPath c = true := by
  refine decide_eq_true ?_
  rcases h with h | h | rfl | rfl
  · have hbounds : (decide (c.val ≥ 97) && decide (c.val ≤ 122)) = true := h
    have hrange : 97 ≤ c.toNat ∧ c.toNat ≤ 122 := by
      simpa [UInt32.le_iff_toNat_le] using hbounds
    omega
  · have hbounds : (decide (c.val ≥ 48) && decide (c.val ≤ 57)) = true := h
    have hrange : 48 ≤ c.toNat ∧ c.toNat ≤ 57 := by
      simpa [UInt32.le_iff_toNat_le] using hbounds
    omega
  · decide
  · decide

/-- A legal name may stand in a path. -/
theorem LegalName.inPath {s : String} (h : LegalName s) : Target.InPath s :=
  fun c hc => inPath_of_legal (h.chars c hc)

/-- A legal name is a piece of a path. -/
theorem LegalName.isSegment {s : String} (h : LegalName s) : IsSegment s := by
  intro c hc
  have hslash : c ≠ '/' := by
    rintro rfl
    rcases h.chars _ hc with h | h | h | h
    all_goals exact absurd h (by decide)
  refine ⟨hslash, ?_, ?_⟩
  · rintro rfl
    exact Bool.false_ne_true (Target.not_inPath_questionMark.symm.trans (h.inPath _ hc))
  · rintro rfl
    exact Bool.false_ne_true (Target.not_inPath_numberSign.symm.trans (h.inPath _ hc))

/-! ## The secrets of the operator -/

section Operator

variable {lead name : String}

/-- A legal name can be asked for behind a beginning that may stand in a path. -/
theorem LegalName.askable_append (h : LegalName name) (hlead : Target.InPath lead) :
    Askable (lead ++ name) :=
  ⟨fun hempty => h.nonempty (String.append_eq_empty_iff.mp hempty).2,
    (hlead.append h.inPath).isSome_ofText?⟩

theorem askable_databaseSecret (h : LegalName name) : Askable (Names.databaseSecret name) :=
  h.askable_append (by decide)

theorem askable_storageSecret (h : LegalName name) : Askable (Names.storageSecret name) :=
  h.askable_append (by decide)

end Operator

/-! ## Requests -/

section Requests

variable {space name : String}

theorem Request.exists_of_iff {method : Method} {target : String} {body : Option Body} :
    (∃ q, Request.of method target body = .ok q) ↔
      (Target.ofText? target.toList).isSome = true := by
  rw [Request.of]
  cases Target.ofText? target.toList with
  | none => simp
  | some t => simp

/-- The secrets of a namespace have a place in paths. -/
theorem inPath_target (hs : LegalName space) : Target.InPath (Secret.target space) := by
  have hlead : Target.InPath "/api/v1/namespaces/" := by decide
  have hend : Target.InPath "/secrets" := by decide
  exact (hlead.append hs.inPath).append hend

/-- A secret can be fetched exactly if its name can be asked for. -/
theorem Secret.exists_getRequest_iff (hs : LegalName space) :
    (∃ q, Secret.getRequest space name = .ok q) ↔ Askable name := by
  have hslash : Target.InPath "/" := by decide
  rw [Secret.getRequest]
  by_cases hname : name = ""
  · rw [if_pos hname]
    exact iff_of_false (by simp) fun h => h.named hname
  · rw [if_neg hname, Request.exists_of_iff,
      Target.isSome_ofText?_append ((inPath_target hs).append hslash)]
    exact ⟨fun h => ⟨hname, h⟩, fun h => h.written⟩

/-- A secret can be made in every namespace of a legal name. -/
theorem Secret.exists_createRequest (hs : LegalName space) (s : Secret) :
    ∃ q, Secret.createRequest space s = .ok q := by
  rw [Secret.createRequest, Request.exists_of_iff, Target.isSome_ofText?_append (inPath_target hs)]
  decide

/-- The status of an application with a legal name can be written. -/
theorem Manifest.exists_statusRequest (hs : LegalName space) (hn : LegalName name)
    (status : Status) : ∃ q, Manifest.statusRequest space name status = .ok q := by
  have hlead : Target.InPath ("/apis/" ++ apiVersion ++ "/namespaces/") := by decide
  have hmiddle : Target.InPath ("/" ++ plural ++ "/") := by decide
  have hpath := (hlead.append hs.inPath).append (hmiddle.append hn.inPath)
  have htarget : "/apis/" ++ apiVersion ++ "/namespaces/" ++ space ++ "/" ++ plural ++ "/" ++
      name ++ "/status?&fieldManager=" ++ Names.fieldManager =
      "/apis/" ++ apiVersion ++ "/namespaces/" ++ space ++ ("/" ++ plural ++ "/" ++ name) ++
        ("/status?&fieldManager=" ++ Names.fieldManager) := by
    simp only [String.append_assoc]
  rw [Manifest.statusRequest, if_neg hn.nonempty, Request.exists_of_iff, htarget,
    Target.isSome_ofText?_append hpath]
  decide

end Requests

end PipelinesOperator
