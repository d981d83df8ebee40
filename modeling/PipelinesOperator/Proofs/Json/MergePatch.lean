import PipelinesOperator.Json.MergePatch
import PipelinesOperator.Proofs.Json.Basic

/-!
# What a merge patch leaves of an object

A patch decides about the keys it has: a `null` takes the member away, and anything else is laid
over the value that was there.  All other members stay as they were.  No key gets to be there
twice by a patch.

## Main definitions

* `Json.overlay old patch`: what a member becomes when a patch has its key

## Main results

* `lookup_mergeMembers`: the value of a key behind a patch
* `distinct_mergeMembers`: a patch makes no member twice
-/

namespace PipelinesOperator.Json

variable {members patch : List (String × Json)} {keys : List String}

/-! ## One member -/

/-- The value of a key after one key was set. -/
theorem lookup_setMember (key k : String) (value : Json) (members : List (String × Json)) :
    (setMember key value members).lookup k = if k = key then some value else members.lookup k := by
  induction members with
  | nil => rw [setMember, lookup_cons_eq_ite]
  | cons m ms ih =>
    obtain ⟨key', value'⟩ := m
    rw [setMember]
    by_cases hm : key' = key
    · rw [if_pos hm, lookup_cons_eq_ite, lookup_cons_eq_ite, hm]
      by_cases hk : k = key
      · rw [if_pos hk, if_pos hk]
      · rw [if_neg hk, if_neg hk, if_neg hk]
    · rw [if_neg hm, lookup_cons_eq_ite, lookup_cons_eq_ite, ih]
      by_cases hk : k = key'
      · rw [if_pos hk, if_pos hk, if_neg (hk ▸ hm)]
      · rw [if_neg hk, if_neg hk]

/-- The value of a key after one key was taken away. -/
theorem lookup_filter_ne (key k : String) (members : List (String × Json)) :
    (members.filter fun m => m.1 ≠ key).lookup k =
      if k = key then none else members.lookup k := by
  induction members with
  | nil => simp
  | cons m ms ih =>
    obtain ⟨key', value'⟩ := m
    by_cases hm : key' = key
    · rw [List.filter_cons_of_neg (by simpa using hm), ih, lookup_cons_eq_ite, hm]
      by_cases hk : k = key
      · rw [if_pos hk, if_pos hk]
      · rw [if_neg hk, if_neg hk, if_neg hk]
    · rw [List.filter_cons_of_pos (by simpa using hm), lookup_cons_eq_ite, ih, lookup_cons_eq_ite]
      by_cases hk : k = key'
      · rw [if_pos hk, if_pos hk, if_neg (hk ▸ hm)]
      · rw [if_neg hk, if_neg hk]

/-- Setting a key gives no name but that one, and that one only at the end. -/
theorem map_fst_setMember (key : String) (value : Json) (members : List (String × Json)) :
    (setMember key value members).map Prod.fst =
      if key ∈ members.map Prod.fst then members.map Prod.fst
      else members.map Prod.fst ++ [key] := by
  induction members with
  | nil => rfl
  | cons m ms ih =>
    rw [setMember]
    by_cases hm : m.1 = key
    · have hk : key ∈ (m :: ms).map Prod.fst := List.mem_cons.mpr (.inl hm.symm)
      rw [if_pos hm, if_pos hk, List.map_cons, List.map_cons, hm]
    · rw [if_neg hm, List.map_cons, List.map_cons, ih]
      by_cases hk : key ∈ ms.map Prod.fst
      · rw [if_pos hk, if_pos (List.mem_cons_of_mem m.1 hk)]
      · rw [if_neg hk, if_neg (by simpa [Ne.symm hm] using hk)]
        rfl

/-- A key that is not among the first members is set behind them. -/
theorem setMember_append {key : String} {value : Json} {own : List (String × Json)}
    (h : ∀ m ∈ own, m.1 ≠ key) (members : List (String × Json)) :
    setMember key value (own ++ members) = own ++ setMember key value members := by
  induction own with
  | nil => rfl
  | cons m ms ih =>
    obtain ⟨hm, hms⟩ := List.forall_mem_cons.mp h
    rw [List.cons_append, setMember, if_neg hm, ih hms]
    rfl

/-- Behind a key that was set stand the members from before and the one that was set. -/
theorem mem_setMember {key : String} {value : Json} {m : String × Json}
    (hm : m ∈ setMember key value members) : m = (key, value) ∨ m ∈ members := by
  induction members with
  | nil => exact .inl (List.mem_singleton.mp hm)
  | cons m' ms ih =>
    rw [setMember] at hm
    split at hm
    · exact (List.mem_cons.mp hm).imp_right (List.mem_cons_of_mem m')
    · rcases List.mem_cons.mp hm with rfl | hm
      · exact .inr List.mem_cons_self
      · exact (ih hm).imp_right (List.mem_cons_of_mem m')

theorem distinct_setMember (h : Distinct keys (members.map Prod.fst)) (key : String)
    (value : Json) : Distinct keys ((setMember key value members).map Prod.fst) := by
  rw [map_fst_setMember]
  split
  · exact h
  · rename_i hkey
    refine List.pairwise_append.mpr ⟨h, List.pairwise_singleton _ key, ?_⟩
    rintro name hname key' hkey' -
    obtain rfl := List.mem_singleton.mp hkey'
    exact fun heq => hkey (heq ▸ hname)

theorem distinct_filter (h : Distinct keys (members.map Prod.fst)) (p : String × Json → Bool) :
    Distinct keys ((members.filter p).map Prod.fst) :=
  h.sublist (List.filter_sublist.map Prod.fst)

/-! ## All members of a patch -/

/-- What a member becomes, if anything, when a patch has its key. -/
def overlay (old : Option Json) : Json → Option Json
  | .null => none
  | j => some (mergePatch (old.getD .null) j)

/-- Members with one of a patch laid over them. -/
def mergeMember (key : String) (members : List (String × Json)) : Json → List (String × Json)
  | .null => members.filter fun m => m.1 ≠ key
  | j => setMember key (mergePatch ((members.lookup key).getD .null) j) members

/-- The members of a patch are laid over an object one after the other. -/
theorem mergeMembers_cons (key : String) (value : Json) (members rest : List (String × Json)) :
    mergeMembers members ((key, value) :: rest) =
      mergeMembers (mergeMember key members value) rest := by
  cases value with
  | null => rw [mergeMembers, mergeMember]
  | _ =>
    rw [mergeMembers, mergeMember, find?_eq_lookup]
    all_goals exact Json.noConfusion

/-- A member of a patch decides about its own key alone. -/
theorem lookup_mergeMember (key k : String) (members : List (String × Json)) (value : Json) :
    (mergeMember key members value).lookup k =
      if k = key then overlay (members.lookup key) value else members.lookup k := by
  cases value with
  | null => exact lookup_filter_ne key k members
  | _ => exact lookup_setMember key k _ members

theorem distinct_mergeMember (h : Distinct keys (members.map Prod.fst)) (key : String)
    (value : Json) : Distinct keys ((mergeMember key members value).map Prod.fst) := by
  cases value with
  | null => exact distinct_filter h _
  | _ => exact distinct_setMember h key _

/-- A patch of one member lays its value over the one of its key. -/
theorem mergePatch_member {value : Json} (hv : value ≠ .null) (key : String)
    (members : List (String × Json)) : (obj members).mergePatch (.obj [(key, value)]) =
      .obj (setMember key (mergePatch ((members.lookup key).getD .null) value) members) := by
  rw [mergePatch, Json.members, mergeMembers_cons, mergeMembers]
  cases value with
  | null => exact absurd rfl hv
  | _ => rfl

/-- The value of a key behind a patch without repeated keys: what the patch makes of it if it has
the key, and else what it was. -/
theorem lookup_mergeMembers (members : List (String × Json)) (h : (patch.map Prod.fst).Nodup)
    (k : String) : (mergeMembers members patch).lookup k =
      match patch.lookup k with
      | none => members.lookup k
      | some value => overlay (members.lookup k) value := by
  induction patch generalizing members with
  | nil => rw [mergeMembers, List.lookup_nil]
  | cons m rest ih =>
    obtain ⟨hkey, hrest⟩ := List.nodup_cons.mp h
    rw [mergeMembers_cons, ih _ hrest, lookup_cons_eq_ite, lookup_mergeMember]
    by_cases hk : k = m.1
    · have hnone : rest.lookup k = none := by
        refine List.lookup_eq_none_iff.mpr fun m' hm' => ?_
        exact bne_iff_ne.mpr fun heq => hkey (hk ▸ heq ▸ List.mem_map_of_mem hm')
      rw [hnone, if_pos hk, if_pos hk, hk]
    · rw [if_neg hk, if_neg hk]

/-- A patch makes no member twice. -/
theorem distinct_mergeMembers (h : Distinct keys (members.map Prod.fst)) :
    Distinct keys ((mergeMembers members patch).map Prod.fst) := by
  induction patch generalizing members with
  | nil => rwa [mergeMembers]
  | cons m rest ih =>
    rw [mergeMembers_cons]
    exact ih (distinct_mergeMember h m.1 m.2)

end PipelinesOperator.Json
