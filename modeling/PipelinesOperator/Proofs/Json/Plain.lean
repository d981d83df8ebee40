import PipelinesOperator.Proofs.Json.Canonical
import PipelinesOperator.Proofs.Json.MergePatch

/-!
# Plain documents

Of a plain document every number is an integer of sixty-four bits, and its arrays and objects stand
no deeper inside one another than a bound.  Such documents can be sent as text and read again.  They
stay plain in canonical form, and when one is laid over another.

## Main definitions

* `Json.Plain`: plain documents

## Main results

* `Plain.canonical`, `Plain.mergePatch`: plain documents stay plain
-/

namespace PipelinesOperator

/-- A document whose numbers are integers of sixty-four bits and whose containers stand no deeper
one inside the other than a bound. -/
inductive Json.Plain : Nat → Json → Prop where
  | null (n : Nat) : Json.Plain n .null
  | bool (n : Nat) (b : Bool) : Json.Plain n (.bool b)
  | integer (n : Nat) {i : Int} (least : -9223372036854775808 ≤ i)
      (greatest : i ≤ 18446744073709551615) : Json.Plain n (.num (.integer i))
  | str (n : Nat) (s : String) : Json.Plain n (.str s)
  | arr {n : Nat} {items : List Json} (h : ∀ j ∈ items, Json.Plain n j) :
      Json.Plain (n + 1) (.arr items)
  | obj {n : Nat} {members : List (String × Json)} (h : ∀ m ∈ members, Json.Plain n m.2) :
      Json.Plain (n + 1) (.obj members)

namespace Json

variable {n : Nat} {j patch : Json} {key : String} {members : List (String × Json)}

@[simp] theorem plain_null (n : Nat) : null.Plain n := .null n

@[simp] theorem plain_bool (n : Nat) (b : Bool) : (bool b).Plain n := .bool n b

@[simp] theorem plain_str (n : Nat) (s : String) : (str s).Plain n := .str n s

theorem plain_arr_iff {items : List Json} :
    (arr items).Plain (n + 1) ↔ ∀ j ∈ items, j.Plain n := by
  constructor
  · intro h
    cases h with
    | arr h => exact h
  · exact Plain.arr

theorem plain_obj_iff : (obj members).Plain (n + 1) ↔ ∀ m ∈ members, m.2.Plain n := by
  constructor
  · intro h
    cases h with
    | obj h => exact h
  · exact Plain.obj

/-- A plain document is plain for every greater bound. -/
theorem Plain.mono (h : j.Plain n) {m : Nat} (hm : n ≤ m) : j.Plain m := by
  induction h generalizing m with
  | null => exact .null m
  | bool _ b => exact .bool m b
  | integer _ least greatest => exact .integer m least greatest
  | str _ s => exact .str m s
  | arr _ ih =>
    obtain ⟨m, rfl⟩ := Nat.exists_eq_add_one_of_ne_zero (Nat.ne_zero_of_lt hm)
    exact .arr fun j hj => ih j hj (Nat.le_of_succ_le_succ hm)
  | obj _ ih =>
    obtain ⟨m, rfl⟩ := Nat.exists_eq_add_one_of_ne_zero (Nat.ne_zero_of_lt hm)
    exact .obj fun member hmember => ih member hmember (Nat.le_of_succ_le_succ hm)

/-- The canonical form of a plain document is plain. -/
theorem Plain.canonical (h : j.Plain n) : j.canonical.Plain n := by
  induction h with
  | null n => exact .null n
  | bool n b => exact .bool n b
  | integer n least greatest => exact .integer n least greatest
  | str n s => exact .str n s
  | arr _ ih =>
    rw [Json.canonical, canonicalItems_eq_map]
    refine .arr fun j hj => ?_
    obtain ⟨item, hitem, rfl⟩ := List.mem_map.mp hj
    exact ih item hitem
  | obj _ ih =>
    rw [canonical_obj]
    refine .obj fun m hm => ?_
    obtain ⟨e, he, rfl⟩ := List.mem_map.mp hm
    exact ih e (Table.mem_of_mem_ofList he)

/-! ## Merge patches -/

/-- Laying a member of a patch over plain members leaves them plain, if what it becomes is. -/
theorem plain_mergeMember {value : Json} (hm : ∀ m ∈ members, m.2.Plain n)
    (hv : ∀ old : Json, old.Plain n → (old.mergePatch value).Plain n) :
    ∀ m ∈ mergeMember key members value, m.2.Plain n := by
  have hold : ((members.lookup key).getD .null).Plain n := by
    cases hl : members.lookup key with
    | none => exact .null n
    | some j =>
      obtain ⟨before, rest, rfl, -⟩ := List.lookup_eq_some_iff.mp hl
      exact hm (key, j) (List.mem_append_right before List.mem_cons_self)
  intro m hmem
  cases value with
  | null => exact hm m (List.mem_filter.mp hmem).1
  | _ =>
    rcases mem_setMember hmem with rfl | hmem
    · exact hv _ hold
    · exact hm m hmem

/-- A plain patch laid over a plain document leaves it plain. -/
theorem Plain.mergePatch (hp : patch.Plain n) (hj : j.Plain n) : (j.mergePatch patch).Plain n := by
  induction hp generalizing j with
  | null n => exact .null n
  | bool n b => exact .bool n b
  | integer n least greatest => exact .integer n least greatest
  | str n s => exact .str n s
  | arr hp _ => exact .arr hp
  | @obj n patch hp ih =>
    have hmembers : ∀ m ∈ j.members, m.2.Plain n := by
      cases hj with
      | obj hj => exact hj
      | _ => simp [Json.members]
    rw [Json.mergePatch]
    refine .obj ?_
    generalize j.members = members at hmembers
    induction patch generalizing members with
    | nil => rwa [mergeMembers]
    | cons m rest ihrest =>
      obtain ⟨ihm, ih⟩ := List.forall_mem_cons.mp ih
      obtain ⟨-, hp⟩ := List.forall_mem_cons.mp hp
      rw [mergeMembers_cons]
      exact ihrest hp ih _ (plain_mergeMember hmembers fun old hold => ihm hold)

end Json

end PipelinesOperator
