import PipelinesOperator.Proofs.Except
import PipelinesOperator.Proofs.Json.Basic
import PipelinesOperator.Shape.Read

/-!
# Reading documents part by part

What an integer, a value that may be missing, an array or an object of any keys is read as, told
from what its parts are read as.

## Main results

* `Doc.toJson_ofJson`: a document as its tree
* `readWhole_ofInt`: an integer between two bounds
* `ofJson_optional`, `ofJson_orNull`: documents other than null
* `ofJson_list_eq_ok`: an array, item by item
* `map_some_of_ofJson_table`, `ofJson_table_entries`: an object of any keys, member by member
-/

namespace PipelinesOperator

namespace Doc

/-- The tree of a document is the tree of that document. -/
theorem toJson_ofJson (j : Json) : (ofJson j).toJson = .ok j := by
  induction j using Json.induction with
  | null => rfl
  | bool b => rfl
  | num n =>
    cases n with
    | integer i =>
      rw [ofJson, toJson]
      split
      · rename_i h
        exact congrArg (fun i => Except.ok (Json.num (.integer i))) (Int.toNat_of_nonneg h)
      · rfl
    | double d => rfl
  | str s => rfl
  | arr items ih =>
    have hitems : toItems (ofItems items) = .ok items := by
      induction items with
      | nil => rfl
      | cons j js ihjs =>
        obtain ⟨hj, hjs⟩ := List.forall_mem_cons.mp ih
        rw [ofItems, toItems, hj, ihjs hjs]
        rfl
    rw [ofJson, toJson, hitems]
    rfl
  | obj members ih =>
    have hmembers : toMembers (ofMembers members) = .ok members := by
      induction members with
      | nil => rfl
      | cons m ms ihms =>
        obtain ⟨hm, hms⟩ := List.forall_mem_cons.mp ih
        rw [ofMembers, toMembers, hm, ihms hms]
        rfl
    rw [ofJson, toJson, hmembers]
    rfl

end Doc

namespace Shape

variable {α : Type} {shape : Shape α}

/-- An integer between two bounds is read as itself. -/
theorem readWhole_ofInt (name : String) {least greatest i : Int} (hl : least ≤ i)
    (hg : i ≤ greatest) :
    readWhole name least greatest (Doc.ofJson (.num (.integer i))) = .ok i := by
  rw [Doc.ofJson]
  by_cases h0 : 0 ≤ i
  · rw [if_pos h0, readWhole]
    simp only [Int.toNat_of_nonneg h0]
    exact if_pos ⟨hl, hg⟩
  · rw [if_neg h0, readWhole]
    exact if_pos ⟨hl, hg⟩

/-- A document other than null is read as the value that need not be there. -/
theorem ofJson_optional {j : Json} (h : j ≠ .null) :
    (optional shape).ofJson j = (shape.ofJson j).map some := by
  cases j with
  | null => exact absurd rfl h
  | num n =>
    cases n with
    | integer i => rfl
    | double d => rfl
  | _ => rfl

/-- A document other than null is read as the value for which null may stand. -/
theorem ofJson_orNull {value : α} {j : Json} (h : j ≠ .null) :
    (orNull value shape).ofJson j = shape.ofJson j := by
  cases j with
  | null => exact absurd rfl h
  | num n =>
    cases n with
    | integer i => rfl
    | double d => rfl
  | _ => rfl

/-! ## Arrays -/

theorem readItems_eq_ok {js : List Json} {i : Nat} {as : List α} :
    readItems (read .document shape) i (Doc.ofItems js) = .ok as ↔
      as.map some = js.map fun j => (shape.ofJson j).toOption := by
  induction js generalizing i as with
  | nil =>
    change Except.ok [] = Except.ok as ↔ as.map some = []
    rw [List.map_eq_nil_iff, Except.ok.injEq, eq_comm]
  | cons j js ih =>
    simp only [Doc.ofItems, readItems, Except.bind_eq_ok, Except.mapError_eq_ok, ih]
    constructor
    · rintro ⟨a, ha, rest, hrest, h⟩
      obtain rfl := Except.ok.inj h
      rw [List.map_cons, List.map_cons, hrest]
      exact congrArg (· :: _) (Except.toOption_eq_some.mpr ha).symm
    · intro h
      cases as with
      | nil => cases h
      | cons a rest =>
        obtain ⟨ha, hrest⟩ := List.cons.inj h
        exact ⟨a, Except.toOption_eq_some.mp ha.symm, rest, hrest, rfl⟩

/-- An array is read item by item. -/
theorem ofJson_list_eq_ok {js : List Json} {as : List α} :
    (list shape).ofJson (.arr js) = .ok as ↔
      as.map some = js.map fun j => (shape.ofJson j).toOption := by
  rw [← readItems_eq_ok (i := 0), ofJson, Doc.ofJson, read, Except.bind_eq_ok]
  exact ⟨fun ⟨_, h, h'⟩ => h.trans h', fun h => ⟨as, h, rfl⟩⟩

/-- An array of what values are written as is read as what each of them is read as. -/
theorem ofJson_list_map {β : Type} {f : β → Json} {g : β → α} {bs : List β}
    (h : ∀ b ∈ bs, shape.ofJson (f b) = .ok (g b)) :
    (list shape).ofJson (.arr (bs.map f)) = .ok (bs.map g) := by
  rw [ofJson_list_eq_ok, List.map_map, List.map_map]
  exact List.map_congr_left fun b hb => (Except.toOption_eq_some.mpr (h b hb)).symm

/-! ## Objects of any keys -/

theorem readMembers_eq_ok {ms : List (String × Json)} {as : List (String × α)} :
    readMembers (read .document shape) (Doc.ofMembers ms) = .ok as ↔
      (as.map fun e => (e.1, some e.2)) = ms.map fun m => (m.1, (shape.ofJson m.2).toOption) := by
  induction ms generalizing as with
  | nil =>
    change Except.ok [] = Except.ok as ↔ (as.map fun e => (e.1, some e.2)) = []
    rw [List.map_eq_nil_iff, Except.ok.injEq, eq_comm]
  | cons m ms ih =>
    simp only [Doc.ofMembers, readMembers, Except.bind_eq_ok, Except.mapError_eq_ok, ih]
    constructor
    · rintro ⟨a, ha, rest, hrest, h⟩
      obtain rfl := Except.ok.inj h
      rw [List.map_cons, List.map_cons, hrest]
      exact congrArg (fun a => (m.1, a) :: _) (Except.toOption_eq_some.mpr ha).symm
    · intro h
      cases as with
      | nil => cases h
      | cons e rest =>
        obtain ⟨he, hrest⟩ := List.cons.inj h
        obtain ⟨hkey, ha⟩ := Prod.mk.inj he
        exact ⟨e.2, Except.toOption_eq_some.mp ha.symm, rest, hrest,
          congrArg (fun key => Except.ok ((key, e.2) :: rest)) hkey.symm⟩

/-- An object of any keys is read as the table of what its members are read as. -/
theorem map_some_of_ofJson_table {ms : List (String × Json)} {t : Table α}
    (h : (table shape).ofJson (.obj ms) = .ok t) :
    t.map some = (Table.ofList ms).map fun j => (shape.ofJson j).toOption := by
  obtain ⟨as, has, ht⟩ := Except.bind_eq_ok.mp h
  obtain rfl := Except.ok.inj ht
  rw [← Table.ofList_map, readMembers_eq_ok.mp has]
  exact Table.ofList_map (fun j => (shape.ofJson j).toOption) ms

/-- The entries of a table are read as those of another. -/
theorem ofJson_table_entries {t : Table Json} {t' : Table α} :
    (table shape).ofJson (.obj t.entries) = .ok t' ↔
      t'.map some = t.map fun j => (shape.ofJson j).toOption := by
  constructor
  · intro h
    rw [map_some_of_ofJson_table h, Table.ofList_entries]
  · intro h
    refine Except.bind_eq_ok.mpr ⟨t'.entries, readMembers_eq_ok.mpr (congrArg Table.entries h), ?_⟩
    exact congrArg Except.ok t'.ofList_entries

end Shape

end PipelinesOperator
