import PipelinesOperator.Json.Basic
import PipelinesOperator.Proofs.Table

/-!
# Induction over documents

What holds of an array if it holds of its items, of an object if it holds of the values of its
members, and of everything else, holds of every document.

## Main results

* `Json.induction`: induction over documents
* `Json.get?_eq_lookup`: the value of a member
-/

namespace PipelinesOperator.Json

/-- Induction over documents: through the items of arrays and the values of members. -/
@[elab_as_elim]
theorem induction {motive : Json → Prop} (null : motive .null) (bool : ∀ b, motive (.bool b))
    (num : ∀ n, motive (.num n)) (str : ∀ s, motive (.str s))
    (arr : ∀ items : List Json, (∀ j ∈ items, motive j) → motive (.arr items))
    (obj : ∀ members : List (String × Json), (∀ m ∈ members, motive m.2) → motive (.obj members))
    (j : Json) : motive j := by
  match j with
  | .null => exact null
  | .bool b => exact bool b
  | .num n => exact num n
  | .str s => exact str s
  | .arr items => exact arr items fun j hj => induction null bool num str arr obj j
  | .obj members => exact obj members fun m hm => induction null bool num str arr obj m.2
termination_by sizeOf j
decreasing_by
  · have := List.sizeOf_lt_of_mem hj
    simp only [Json.arr.sizeOf_spec]
    omega
  · obtain ⟨key, value⟩ := m
    have := List.sizeOf_lt_of_mem hm
    simp only [Json.obj.sizeOf_spec, Prod.mk.sizeOf_spec] at this ⊢
    omega

/-- The value of a member is the last one of its key. -/
theorem get?_eq_lookup (j : Json) (key : String) : j.get? key = j.members.reverse.lookup key :=
  find?_eq_lookup key j.members.reverse

end PipelinesOperator.Json
