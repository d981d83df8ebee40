import Mathlib.Data.List.Forall2
import PipelinesOperator.Proofs.Json.Canonical
import PipelinesOperator.Proofs.Text.ByteOrder

/-!
# Documents up to the order of members

Two documents are alike if they have the same items, and under every key members that are alike;
the order of members does not matter, nor does a member that a later one of its key overrules.
The canonical form is alike to the document, and it is the only one in order: documents are alike
exactly when they have one canonical form.

## Main definitions

* `Json.Alike`: documents that are the same up to the order of members
* `Json.InOrder`: documents whose keys stand in increasing order, at every depth

## Main results

* `alike_iff_canonical_eq`: documents are alike exactly when they have one canonical form
* `alike_canonical`: a document is alike to its canonical form
* `inOrder_canonical`: the canonical form is in order
-/

namespace PipelinesOperator.Json

/-- Documents that are the same up to the order of members, of which the last one of a key
counts. -/
inductive Alike : Json → Json → Prop where
  | null : Alike .null .null
  | bool (b : Bool) : Alike (.bool b) (.bool b)
  | num (n : Number) : Alike (.num n) (.num n)
  | str (s : String) : Alike (.str s) (.str s)
  | arr {items items' : List Json} (h : List.Forall₂ Alike items items') :
      Alike (.arr items) (.arr items')
  | obj {members members' : List (String × Json)}
      (h : ∀ key, Option.Rel Alike ((obj members).get? key) ((obj members').get? key)) :
      Alike (.obj members) (.obj members')

/-- Documents in which the keys of every object, at every depth, stand in increasing order of their
bytes. -/
inductive InOrder : Json → Prop where
  | null : InOrder .null
  | bool (b : Bool) : InOrder (.bool b)
  | num (n : Number) : InOrder (.num n)
  | str (s : String) : InOrder (.str s)
  | arr {items : List Json} (h : ∀ j ∈ items, InOrder j) : InOrder (.arr items)
  | obj {members : List (String × Json)}
      (sorted : members.Pairwise fun m m' => Text.utf8 m.1 < Text.utf8 m'.1)
      (h : ∀ m ∈ members, InOrder m.2) : InOrder (.obj members)

variable {items items' : List Json} {members members' : List (String × Json)}

theorem canonical_arr (items : List Json) : (arr items).canonical = .arr (items.map canonical) := by
  rw [canonical, canonicalItems_eq_map]

/-- What an object has under a key is the value of one of its members. -/
theorem exists_mem_of_get? {key : String} {j : Json} (h : (obj members).get? key = some j) :
    ∃ m ∈ members, m.2 = j := by
  rw [get?_eq_lookup] at h
  exact ⟨_, List.mem_reverse.mp (mem_of_lookup_eq_some h), rfl⟩

/-- Objects have one canonical form exactly when their members have, key by key. -/
theorem canonical_obj_eq_iff : (obj members).canonical = (obj members').canonical ↔
    ∀ key, ((obj members).get? key).map canonical = ((obj members').get? key).map canonical := by
  constructor
  · intro h key
    rw [← get?_canonical, ← get?_canonical, h]
  · intro h
    have hget (ms : List (String × Json)) (key : String) :
        ((Table.ofList ms).map canonical).get? key = ((obj ms).get? key).map canonical := by
      rw [get?_eq_lookup, Json.members, ← Table.get?_ofList]
      exact lookup_map_snd key canonical _
    rw [canonical_obj, canonical_obj]
    refine congrArg (fun t : Table Json => obj t.entries) (Table.ext_get? fun key => ?_)
    rw [hget, hget, h key]

theorem forall₂_iff_map_canonical_eq
    (h : ∀ j ∈ items, ∀ j', j.Alike j' ↔ j.canonical = j'.canonical) :
    List.Forall₂ Alike items items' ↔ items.map canonical = items'.map canonical := by
  induction items generalizing items' with
  | nil => simp [eq_comm]
  | cons j js ih =>
    obtain ⟨hj, hjs⟩ := List.forall_mem_cons.mp h
    cases items' with
    | nil => simp
    | cons j' js' =>
      rw [List.forall₂_cons, hj, ih hjs, List.map_cons, List.map_cons, List.cons.injEq]

theorem rel_iff_map_canonical_eq {o o' : Option Json}
    (h : ∀ j ∈ o, ∀ j', j.Alike j' ↔ j.canonical = j'.canonical) :
    Option.Rel Alike o o' ↔ o.map canonical = o'.map canonical := by
  cases o with
  | none => cases o' <;> simp
  | some j =>
    cases o' with
    | none => simp
    | some j' => simpa using h j rfl j'

/-- Documents are alike exactly when they have one canonical form. -/
theorem alike_iff_canonical_eq {j j' : Json} : j.Alike j' ↔ j.canonical = j'.canonical := by
  induction j using Json.induction generalizing j' with
  | arr items ih =>
    have hitems (items' : List Json) :
        List.Forall₂ Alike items items' ↔ items.map canonical = items'.map canonical :=
      forall₂_iff_map_canonical_eq fun j hj j' => ih j hj
    rw [canonical_arr]
    constructor
    · rintro ⟨⟩
      rename_i items' h
      rw [canonical_arr, (hitems items').mp h]
    · intro h
      cases j' with
      | arr items' =>
        rw [canonical_arr] at h
        exact .arr ((hitems items').mpr (Json.arr.inj h))
      | _ => simp [canonical] at h
  | obj members ih =>
    have hmembers (members' : List (String × Json)) :
        (∀ key, Option.Rel Alike ((obj members).get? key) ((obj members').get? key)) ↔
          (obj members).canonical = (obj members').canonical := by
      rw [canonical_obj_eq_iff]
      refine forall_congr' fun key => rel_iff_map_canonical_eq fun j hj j' => ?_
      obtain ⟨m, hm, rfl⟩ := exists_mem_of_get? hj
      exact ih m hm
    constructor
    · rintro ⟨⟩
      rename_i members' h
      exact (hmembers members').mp h
    · intro h
      cases j' with
      | obj members' => exact .obj ((hmembers members').mpr h)
      | _ => simp [canonical] at h
  | null | bool | num | str =>
    constructor
    · rintro ⟨⟩
      rfl
    · intro h
      cases j' with
      | arr items' => simp [canonical] at h
      | obj members' => simp [canonical] at h
      | null | bool | num | str => cases h <;> constructor

/-- A document is alike to its canonical form. -/
theorem alike_canonical (j : Json) : j.Alike j.canonical :=
  alike_iff_canonical_eq.mpr j.canonical_canonical.symm

/-- The canonical form is in order. -/
theorem inOrder_canonical (j : Json) : j.canonical.InOrder := by
  induction j using Json.induction with
  | arr items ih =>
    rw [canonical_arr]
    refine .arr fun j hj => ?_
    obtain ⟨item, hitem, rfl⟩ := List.mem_map.mp hj
    exact ih item hitem
  | obj members ih =>
    rw [canonical_obj]
    refine .obj (((Table.ofList members).map canonical).sorted.imp Text.utf8_lt_utf8) ?_
    intro m hm
    obtain ⟨e, he, rfl⟩ := List.mem_map.mp hm
    exact ih e (Table.mem_of_mem_ofList he)
  | null => exact .null
  | bool b => exact .bool b
  | num n => exact .num n
  | str s => exact .str s

end PipelinesOperator.Json
