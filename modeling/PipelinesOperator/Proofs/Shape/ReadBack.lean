import PipelinesOperator.Proofs.Bytes.Base64
import PipelinesOperator.Proofs.Shape.Record
import PipelinesOperator.Proofs.Timestamp.RoundTrip
import PipelinesOperator.Shape.Write

/-!
# What is written is read back

A value that is written in a shape is read back as it was, unless the shape leaves something of it
out: the fraction of a time, the order of a document's members, a value that is written as if it
were none, or a field that is hidden though it has not the value it gets when it is absent.

## Main definitions

* `Shape.Keeps shape a`: nothing of a value is left out when it is written
* `Shape.KeepsAll fields a`: nothing of the fields of a record is left out

## Main results

* `takesAll_members_cons`: the fields of a record are taken from what they are written as
* `ofJson_write`: what is written is read back
-/

namespace PipelinesOperator

namespace Shape

mutual

/-- Nothing of a value is left out when it is written. -/
def Keeps : {α : Type} → Shape α → α → Prop
  | _, .timestamp precise, _ => precise = true
  | _, .document, j => j.canonical = j
  | _, .optional _, none => True
  | _, .optional shape, some a => shape.write a ≠ .null ∧ Keeps shape a
  | _, .orNull _ shape, a => shape.write a ≠ .null ∧ Keeps shape a
  | _, .list shape, as => ∀ a ∈ as, Keeps shape a
  | _, .table shape, t => ∀ e ∈ t.entries, Keeps shape e.2
  | _, .either _ left _ _, .inl a => Keeps left a
  | _, .either first _ second right, .inr b => first ≠ second ∧ Keeps right b
  | _, .record _ _ _ fields, a => fields.keys.Nodup ∧ KeepsAll fields a
  | _, .view shape _ parts _, a => Keeps shape (parts a)
  | _, _, _ => True

/-- Nothing of the fields of a record is left out, except for such as get their value back when
they are absent. -/
def KeepsAll : {α : Type} → Fields α → α → Prop
  | _, .nil, _ => True
  | _, .cons field shape rest, (a, b) =>
    (if field.hidden a then field.absent = some a else Keeps shape a) ∧ KeepsAll rest b

end

variable {α β : Type}

/-! ## Records -/

/-- The members of a record stand under the keys of its fields, in their order. -/
theorem members_map_fst_sublist (fields : Fields α) (a : α) :
    ((members fields a).map Prod.fst).Sublist fields.keys := by
  induction fields using Fields.rec (motive_1 := fun _ _ => True) with
  | nil => exact List.nil_sublist []
  | cons field shape rest _ ih =>
    obtain ⟨a, b⟩ := a
    rw [members, Fields.keys]
    split
    · exact (ih b).cons field.key
    · exact (ih b).cons_cons field.key
  | _ => trivial

/-- A member of a record is its first field, or a member of the others. -/
theorem eq_or_mem_of_mem_members {field : Field α} {shape : Shape α} {rest : Fields β} {a : α}
    {b : β} {m : String × Json} (h : m ∈ members (.cons field shape rest) (a, b)) :
    m = (field.key, shape.write a) ∨ m ∈ members rest b := by
  rw [members] at h
  split at h
  · exact .inr h
  · exact List.mem_cons.mp h

theorem lookup_members_of_not_mem (fields : Fields α) (a : α) {key : String}
    (h : key ∉ fields.keys) : (members fields a).lookup key = none := by
  refine List.lookup_eq_none_iff.mpr fun m hm => bne_iff_ne.mpr ?_
  rintro rfl
  exact h ((members_map_fst_sublist fields a).subset (List.mem_map_of_mem hm))

/-- The fields of a record are taken from what they are written as, behind members of other
keys. -/
def FieldsReadBack (fields : Fields α) : Prop :=
  ∀ a before, fields.keys.Nodup → (∀ key ∈ fields.keys, before.lookup key = none) →
    KeepsAll fields a → TakesAll fields (before ++ members fields a) a

theorem takesAll_members_cons {field : Field α} {shape : Shape α} {rest : Fields β}
    (ih : ∀ a, shape.Keeps a → shape.ofJson (shape.write a) = .ok a)
    (ihrest : FieldsReadBack rest) : FieldsReadBack (.cons field shape rest) := by
  rintro ⟨a, b⟩ before hnodup hbefore ⟨hfield, hrest⟩
  obtain ⟨hkey, hnodup⟩ := List.nodup_cons.mp hnodup
  obtain ⟨hnone, hbefore⟩ := List.forall_mem_cons.mp hbefore
  rw [members]
  by_cases hh : field.hidden a
  · rw [if_pos hh] at hfield ⊢
    refine ⟨?_, ihrest b before hnodup hbefore hrest⟩
    rw [List.lookup_append, hnone, lookup_members_of_not_mem rest b hkey]
    exact hfield
  · rw [if_neg hh] at hfield ⊢
    constructor
    · rw [List.lookup_append, hnone, lookup_cons_eq_ite, if_pos rfl]
      exact ih a hfield
    · rw [List.append_cons]
      refine ihrest b _ hnodup (fun key hmem => ?_) hrest
      have hne : key ≠ field.key := by
        rintro rfl
        exact hkey hmem
      rw [List.lookup_append, hbefore key hmem, lookup_cons_eq_ite, if_neg hne]
      rfl

/-- A record is read back, if its fields are. -/
theorem ofJson_write_record {name : String} {note : Option String} {strictness : Strictness}
    {fields : Fields α} (ih : FieldsReadBack fields) {a : α}
    (h : (record name note strictness fields).Keeps a) :
    ofJson (record name note strictness fields) (.obj (members fields a)) = .ok a := by
  obtain ⟨hnodup, hkeeps⟩ := h
  have hd : Distinct fields.keys ((members fields a).map Prod.fst) :=
    distinct_of_nodup (hnodup.sublist (members_map_fst_sublist fields a)) fields.keys
  refine read_record_of_gather (skip_ofMembers _) ?_ ?_
  · rwa [names_ofMembers]
  · exact (gather_ofMembers_eq_ok hd fun _ => id).mpr (ih a [] hnodup (fun _ _ => rfl) hkeeps)

/-! ## Alternatives -/

theorem ofJson_write_inl {first second : String} {left : Shape α} {right : Shape β} {a : α}
    (h : left.ofJson (left.write a) = .ok a) : (either first left second right).ofJson
      ((either first left second right).write (.inl a)) = .ok (.inl a) := by
  have hread : read .document left (Doc.ofJson (left.write a)) = .ok a := h
  simp only [ofJson, write, Doc.ofJson, Doc.ofMembers, read, if_true, hread]
  rfl

theorem ofJson_write_inr {first second : String} {left : Shape α} {right : Shape β} {b : β}
    (hne : first ≠ second) (h : right.ofJson (right.write b) = .ok b) :
    (either first left second right).ofJson ((either first left second right).write (.inr b)) =
      .ok (.inr b) := by
  have hread : read .document right (Doc.ofJson (right.write b)) = .ok b := h
  simp only [ofJson, write, Doc.ofJson, Doc.ofMembers, read, if_neg hne.symm, if_true, hread]
  rfl

/-! ## All shapes -/

/-- What is written is read back, if nothing of it is left out.  Of the fields of a record it is
said that each takes what was written for it. -/
theorem ofJson_write (shape : Shape α) {a : α} (h : shape.Keeps a) :
    shape.ofJson (shape.write a) = .ok a := by
  revert a
  induction shape using Shape.rec (motive_2 := fun _ fields => FieldsReadBack fields) with
  | text => exact fun _ => rfl
  | flag => exact fun _ => rfl
  | int32 =>
    intro n _
    refine Except.map_eq_ok.mpr ⟨n.toInt, readWhole_ofInt _ ?_ ?_, Int32.ofInt_toInt n⟩
    · exact n.le_toInt
    · exact Int.le_of_lt_add_one n.toInt_lt
  | int64 =>
    intro n _
    refine Except.map_eq_ok.mpr ⟨n.toInt, readWhole_ofInt _ ?_ ?_, Int64.ofInt_toInt n⟩
    · exact n.le_toInt
    · exact Int.le_of_lt_add_one n.toInt_lt
  | nat16 =>
    intro n _
    refine Except.map_eq_ok.mpr ⟨n.toNat, readWhole_ofInt _ ?_ ?_, UInt16.ofNat_toNat⟩
    · exact Int.natCast_nonneg _
    · exact Int.ofNat_le.mpr (Nat.le_of_lt_add_one n.toNat_lt)
  | nat64 =>
    intro n _
    refine Except.map_eq_ok.mpr ⟨n.toNat, readWhole_ofInt _ ?_ ?_, UInt64.ofNat_toNat⟩
    · exact Int.natCast_nonneg _
    · exact Int.ofNat_le.mpr (Nat.le_of_lt_add_one n.toNat_lt)
  | quantity => exact fun _ => rfl
  | timestamp precise =>
    rintro t rfl
    simp only [ofJson, write, if_true, Doc.ofJson, read, String.toList_ofList,
      Timestamp.read_text]
  | bytes =>
    intro content _
    simp only [ofJson, write, Doc.ofJson, read, String.toList_ofList, Base64.decode_encode]
  | constant expected => exact fun _ => if_pos rfl
  | word spell readWord read_spell =>
    intro a _
    simp only [ofJson, write, Doc.ofJson, read, read_spell]
  | document =>
    intro j hj
    have hj : j.canonical = j := hj
    simp only [ofJson, write, read, Doc.toJson_ofJson, hj]
  | optional shape ih =>
    intro a h
    cases a with
    | none => rfl
    | some a =>
      obtain ⟨hne, h⟩ := h
      exact (ofJson_optional hne).trans (Except.map_eq_ok.mpr ⟨a, ih h, rfl⟩)
  | orNull value shape ih =>
    intro a h
    obtain ⟨hne, h⟩ := h
    exact (ofJson_orNull hne).trans (ih h)
  | list shape ih =>
    intro as h
    refine (ofJson_list_map (g := id) fun a ha => ih (h a ha)).trans ?_
    rw [List.map_id]
  | table shape ih =>
    intro t h
    refine (ofJson_table_entries (t := t.map shape.write)).mpr (Table.ext ?_)
    simp only [Table.map, List.map_map]
    exact List.map_congr_left fun e he =>
      Prod.ext rfl (Except.toOption_eq_some.mpr (ih (h e he))).symm
  | either first left second right ihl ihr =>
    intro a h
    cases a with
    | inl a => exact ofJson_write_inl (ihl h)
    | inr b =>
      obtain ⟨hne, h⟩ := h
      exact ofJson_write_inr hne (ihr h)
  | record name note strictness fields ih => exact fun h => ofJson_write_record ih h
  | view shape make parts make_parts ih =>
    intro a h
    exact Except.map_eq_ok.mpr ⟨parts a, ih h, make_parts a⟩
  | nil => exact fun _ _ _ _ _ => trivial
  | cons field shape rest ih ihrest => exact takesAll_members_cons (fun _ => ih) ihrest

end Shape

end PipelinesOperator
