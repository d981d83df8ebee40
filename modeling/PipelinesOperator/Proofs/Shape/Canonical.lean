import PipelinesOperator.Proofs.Json.Canonical
import PipelinesOperator.Proofs.Shape.Record

/-!
# Reading the canonical form

What is read from a document is read from its canonical form as well.  The converse fails: a member
that is there twice spoils a strict record, and the canonical form has it once.

## Main definitions

* `Shape.ReadsCanonical`: what a shape reads from a document it reads from its canonical form
* `Shape.FieldsReadCanonical`: the fields of a record are taken so, from members and from items

## Main results

* `Shape.ofJson_canonical`: every shape reads canonical forms so
-/

namespace PipelinesOperator

namespace Shape

variable {α β : Type}

/-- What a shape reads from a document it reads from the canonical form. -/
def ReadsCanonical (shape : Shape α) : Prop :=
  ∀ j a, shape.ofJson j = .ok a → shape.ofJson j.canonical = .ok a

/-- The fields of a record are taken from members, by their keys, or from items, in order.  What is
taken for them is taken from the canonical forms. -/
structure FieldsReadCanonical (fields : Fields α) : Prop where
  gather : ∀ a members, gather .document () fields (Doc.ofMembers members) = .ok a →
    gather .document () fields
      (Doc.ofMembers (Table.ofList (Json.canonicalMembers members)).entries) = .ok a
  place : ∀ a name size i items,
    place .document name size () fields i (Doc.ofItems items) none = .ok a →
    place .document name size () fields i (Doc.ofItems (items.map Json.canonical)) none = .ok a

/-! ## Values that may be missing -/

theorem canonical_ne_null {j : Json} (h : j ≠ .null) : j.canonical ≠ .null := by
  cases j with
  | null => exact absurd rfl h
  | _ => exact Json.noConfusion

theorem readsCanonical_optional {shape : Shape α} (ih : shape.ReadsCanonical) :
    (optional shape).ReadsCanonical := by
  intro j a h
  by_cases hj : j = .null
  · rw [hj] at h ⊢
    exact h
  · rw [ofJson_optional hj, Except.map_eq_ok] at h
    obtain ⟨a, ha, rfl⟩ := h
    rw [ofJson_optional (canonical_ne_null hj)]
    exact Except.map_eq_ok.mpr ⟨a, ih j a ha, rfl⟩

theorem readsCanonical_orNull {value : α} {shape : Shape α} (ih : shape.ReadsCanonical) :
    (orNull value shape).ReadsCanonical := by
  intro j a h
  by_cases hj : j = .null
  · rw [hj] at h ⊢
    exact h
  · rw [ofJson_orNull hj] at h
    rw [ofJson_orNull (canonical_ne_null hj)]
    exact ih j a h

/-! ## Arrays, objects of any keys and alternatives -/

/-- The canonical form of a document that can be read is read as the same. -/
theorem ReadsCanonical.toOption_eq {shape : Shape α} (ih : shape.ReadsCanonical) {j : Json} {a : α}
    (h : some a = (shape.ofJson j).toOption) :
    (shape.ofJson j).toOption = (shape.ofJson j.canonical).toOption := by
  have hread := ih j a (Except.toOption_eq_some.mp h.symm)
  exact h.symm.trans (Except.toOption_eq_some.mpr hread).symm

theorem readsCanonical_list {shape : Shape α} (ih : shape.ReadsCanonical) :
    (list shape).ReadsCanonical := by
  intro j as h
  cases j with
  | arr items =>
    rw [ofJson_list_eq_ok] at h
    rw [Json.canonical, Json.canonicalItems_eq_map, ofJson_list_eq_ok, h, List.map_map]
    refine List.map_congr_left fun item hitem => ?_
    have hmem : (shape.ofJson item).toOption ∈ as.map some := h ▸ List.mem_map_of_mem hitem
    obtain ⟨a, -, ha⟩ := List.mem_map.mp hmem
    exact ih.toOption_eq ha
  | _ => exact h

theorem readsCanonical_table {shape : Shape α} (ih : shape.ReadsCanonical) :
    (table shape).ReadsCanonical := by
  intro j t h
  cases j with
  | obj members =>
    have hread := map_some_of_ofJson_table h
    rw [Json.canonical_obj, ofJson_table_entries, hread]
    refine Table.ext ?_
    simp only [Table.map, List.map_map]
    refine List.map_congr_left fun e he => ?_
    have hmem : (e.1, (shape.ofJson e.2).toOption) ∈ (t.map some).entries :=
      hread ▸ List.mem_map_of_mem he
    obtain ⟨e', -, he'⟩ := List.mem_map.mp hmem
    exact Prod.ext rfl (ih.toOption_eq (Prod.mk.inj he').2)
  | _ => exact h

theorem readsCanonical_either {first second : String} {left : Shape α} {right : Shape β}
    (ihl : left.ReadsCanonical) (ihr : right.ReadsCanonical) :
    (either first left second right).ReadsCanonical := by
  intro j a h
  match j with
  | .obj [(key, j)] =>
    change ofJson (either first left second right) (.obj [(key, j.canonical)]) = .ok a
    simp only [ofJson, Doc.ofJson, Doc.ofMembers, read] at h ⊢
    by_cases hfirst : key = first
    · rw [if_pos hfirst, Except.mapError_eq_ok, Except.map_eq_ok] at h ⊢
      obtain ⟨b, hb, rfl⟩ := h
      exact ⟨b, ihl j b hb, rfl⟩
    · rw [if_neg hfirst] at h ⊢
      by_cases hsecond : key = second
      · rw [if_pos hsecond, Except.mapError_eq_ok, Except.map_eq_ok] at h ⊢
        obtain ⟨b, hb, rfl⟩ := h
        exact ⟨b, ihr j b hb, rfl⟩
      · rw [if_neg hsecond] at h
        cases h
  | .obj [] => cases h
  | .obj (_ :: _ :: _) => cases h
  | .arr _ => cases h
  | .null => exact h
  | .bool _ => exact h
  | .num _ => exact h
  | .str _ => exact h

/-! ## Records -/

theorem fieldsReadCanonical_nil : FieldsReadCanonical .nil where
  gather _ _ h := h
  place a name size i items h := by
    cases items with
    | nil => exact h
    | cons j js => cases h

theorem fieldsReadCanonical_cons {field : Field α} {shape : Shape α} {rest : Fields β}
    (ih : shape.ReadsCanonical) (ihrest : FieldsReadCanonical rest) :
    FieldsReadCanonical (.cons field shape rest) where
  gather a members h := by
    obtain ⟨hsome, hnone, hrest⟩ := gather_cons_eq_ok.mp h
    have hlookup :
        (Table.ofList (Json.canonicalMembers members)).entries.reverse.lookup field.key =
          (members.reverse.lookup field.key).map Json.canonical := by
      simpa only [Json.get?_eq_lookup, Json.canonical, Json.members] using
        Json.get?_canonical (.obj members) field.key
    refine gather_cons_eq_ok.mpr ⟨?_, ?_, ihrest.gather a.2 members hrest⟩
    · intro d hd
      rw [lookup_ofMembers, hlookup, Option.map_map, Option.map_eq_some_iff] at hd
      obtain ⟨j, hj, rfl⟩ := hd
      refine ih j a.1 (hsome _ ?_)
      rw [lookup_ofMembers, hj]
      rfl
    · intro hd
      apply hnone
      rw [lookup_ofMembers, hlookup, Option.map_map, Option.map_eq_none_iff] at hd
      rw [lookup_ofMembers, hd]
      rfl
  place a name size i items h := by
    cases items with
    | nil => exact h
    | cons j js =>
      simp only [Doc.ofItems, List.map_cons, Shape.place, Except.bind_eq_ok, Except.map_eq_ok,
        Except.mapError_eq_ok] at h ⊢
      obtain ⟨_, ⟨b, hb, rfl⟩, b', hrest, h⟩ := h
      exact ⟨_, ⟨b, ih j b hb, rfl⟩, b', ihrest.place b' name size (i + 1) js hrest, h⟩

theorem readsCanonical_record {name : String} {note : Option String} {strictness : Strictness}
    {fields : Fields α} (ih : FieldsReadCanonical fields) :
    (record name note strictness fields).ReadsCanonical := by
  intro j a h
  cases j with
  | arr items =>
    cases strictness with
    | strict =>
      rw [Json.canonical, Json.canonicalItems_eq_map]
      exact ih.place a _ _ _ items h
    | lenient => cases h
  | obj members =>
    rw [ofJson, Doc.ofJson, read] at h
    obtain ⟨⟨⟩, -, hgather⟩ := Except.bind_eq_ok.mp h
    rw [Json.canonical]
    refine read_record_of_gather (skip_ofMembers _) ?_ (ih.gather a members hgather)
    rw [names_ofMembers]
    exact Table.distinct_keys _ _
  | _ => exact h

/-! ## All shapes -/

/-- What is read from a document is read from its canonical form. -/
theorem ofJson_canonical {shape : Shape α} {j : Json} {a : α} (h : shape.ofJson j = .ok a) :
    shape.ofJson j.canonical = .ok a := by
  revert j a
  change shape.ReadsCanonical
  induction shape using Shape.rec (motive_2 := fun _ fields => FieldsReadCanonical fields) with
  | document =>
    intro j a h
    rw [ofJson, read, Doc.toJson_ofJson] at h ⊢
    rw [← h]
    exact congrArg Except.ok j.canonical_canonical
  | optional shape ih => exact readsCanonical_optional ih
  | orNull value shape ih => exact readsCanonical_orNull ih
  | list shape ih => exact readsCanonical_list ih
  | table shape ih => exact readsCanonical_table ih
  | either first left second right ihl ihr => exact readsCanonical_either ihl ihr
  | record name note strictness fields ih => exact readsCanonical_record ih
  | view shape make parts make_parts ih =>
    intro j a h
    obtain ⟨b, hb, rfl⟩ := Except.map_eq_ok.mp h
    exact Except.map_eq_ok.mpr ⟨b, ih j b hb, rfl⟩
  | nil => exact fieldsReadCanonical_nil
  | cons field shape rest ih ihrest => exact fieldsReadCanonical_cons ih ihrest
  | _ =>
    intro j a h
    cases j with
    | arr items => cases h
    | obj members => cases h
    | _ => exact h

end Shape

end PipelinesOperator
