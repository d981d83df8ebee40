import PipelinesOperator.Json.Canonical
import PipelinesOperator.Proofs.Json.Basic

/-!
# The canonical form

The canonical form of an object is the table of the canonical forms of its members.  It has what
the object has under every key, and it is its own canonical form.

## Main results

* `canonicalItems_eq_map`, `canonicalMembers_eq_map`: the canonical form goes through a document
* `get?_canonical`: a member of the canonical form
* `canonical_canonical`: the canonical form is its own canonical form
-/

namespace PipelinesOperator.Json

theorem canonicalItems_eq_map (items : List Json) : canonicalItems items = items.map canonical := by
  induction items with
  | nil => rfl
  | cons j js ih => rw [canonicalItems, ih, List.map_cons]

theorem canonicalMembers_eq_map (members : List (String × Json)) :
    canonicalMembers members = members.map fun m => (m.1, m.2.canonical) := by
  induction members with
  | nil => rfl
  | cons m ms ih => rw [canonicalMembers, ih, List.map_cons]

/-- The canonical form of an object is that of its table. -/
theorem canonical_obj (members : List (String × Json)) :
    (obj members).canonical = .obj ((Table.ofList members).map canonical).entries := by
  rw [canonical, canonicalMembers_eq_map, Table.ofList_map canonical]

/-- A member of the canonical form is the canonical form of the member. -/
theorem get?_canonical (j : Json) (key : String) :
    j.canonical.get? key = (j.get? key).map canonical := by
  rw [get?_eq_lookup, get?_eq_lookup]
  cases j with
  | obj ms =>
    rw [canonical, members, members, lookup_reverse (Table.distinct_keys _ [key])
      List.mem_cons_self, canonicalMembers_eq_map]
    change (Table.ofList _).get? key = _
    rw [Table.get?_ofList, ← List.map_reverse, lookup_map_snd]
  | _ => rfl

/-- The canonical form is its own canonical form. -/
theorem canonical_canonical (j : Json) : j.canonical.canonical = j.canonical := by
  induction j using Json.induction with
  | arr items ih =>
    rw [canonical, canonical, canonicalItems_eq_map, canonicalItems_eq_map, List.map_map]
    exact congrArg Json.arr (List.map_congr_left ih)
  | obj members ih =>
    rw [canonical_obj, canonical_obj, Table.ofList_entries]
    refine congrArg Json.obj ?_
    simp only [Table.map, List.map_map]
    refine List.map_congr_left fun e he => ?_
    exact Prod.ext rfl (ih e (Table.mem_of_mem_ofList he))
  | null => rfl
  | bool b => rfl
  | num n => rfl
  | str s => rfl

end PipelinesOperator.Json
