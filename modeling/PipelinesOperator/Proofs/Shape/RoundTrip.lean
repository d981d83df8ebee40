import PipelinesOperator.Proofs.JsonText.RoundTrip
import PipelinesOperator.Proofs.Shape.ReadBack

/-!
# Lossless shapes

A shape is lossless if it leaves nothing out of any value.  Whether it is can be told from the
shape alone: its values that may be missing are written as something else than `null` when they are
there, a record has no key twice, and a field is hidden only for the value that it has when it is
absent.

What is written in a lossless shape comes back, from the document and from its text.  So a document
that is read and written again has its final form: to do so once more changes nothing.

## Main definitions

* `Shape.NeverNull`, `Shape.Lossless`: shapes that never write `null`, and that leave nothing out
* `Shape.depth`: how deep arrays and objects stand in what is written
* `Shape.rewrite`, `JsonText.rewrite`: a document or a text, read and written again
* `Shape.RoundTrips`: everything comes back, and rewriting is idempotent

## Main results

* `Shape.keeps_of_lossless`: a lossless shape keeps every value
* `Shape.plain_write`: what it writes is plain
* `Shape.roundTrips_of_lossless`: it round-trips
-/

namespace PipelinesOperator

variable {α β : Type}

/-! ## Fields that hide nothing else -/

namespace Field

/-- What is hidden of a field is what it is read as when it is absent. -/
def HidesAbsent (field : Field α) : Prop :=
  ∀ a, field.hidden a = true → field.absent = some a

variable (key : String) (note : Option String)

@[simp] theorem hidesAbsent_required : (required key note : Field α).HidesAbsent :=
  fun _ h => Bool.noConfusion h

@[simp] theorem hidesAbsent_defaulted (value : α) : (defaulted key value note).HidesAbsent :=
  fun _ h => Bool.noConfusion h

@[simp] theorem hidesAbsent_optional : (optional key note : Field (Option α)).HidesAbsent :=
  fun _ h => congrArg some (Option.isNone_iff_eq_none.mp h).symm

@[simp] theorem hidesAbsent_nullable : (nullable key note : Field (Option α)).HidesAbsent :=
  fun _ h => Bool.noConfusion h

end Field

/-! ## Rewriting -/

/-- A text is read as a value of a shape, and the value written as a text again. -/
def JsonText.rewrite (shape : Shape α) (text : List Char) :
    Except (Fault Extent Break) (List Char) :=
  (read shape text).map fun a => (shape.write a).compact

namespace Shape

/-- A document is read as a value of a shape, and the value written as a document again. -/
def rewrite (shape : Shape α) (j : Json) : Except (Fault Unit Empty) Json :=
  (shape.ofJson j).map shape.write

/-- Every value comes back from the document and from the text that it is written as.  A document
that is rewritten reads as before, and is not changed by being rewritten again; and so with
texts. -/
structure RoundTrips (shape : Shape α) : Prop where
  document : ∀ a, shape.ofJson (shape.write a) = .ok a
  text : ∀ a, JsonText.read shape (shape.write a).compact = .ok a
  rewritten : ∀ j j', shape.rewrite j = .ok j' →
    shape.ofJson j' = shape.ofJson j ∧ shape.rewrite j' = .ok j'
  rewrittenText : ∀ cs cs', JsonText.rewrite shape cs = .ok cs' →
    JsonText.read shape cs' = JsonText.read shape cs ∧ JsonText.rewrite shape cs' = .ok cs'

/-! ## Lossless shapes -/

/-- No value of the shape is written as `null`. -/
def NeverNull : {α : Type} → Shape α → Prop
  | _, .document => False
  | _, .optional _ => False
  | _, .orNull _ shape => NeverNull shape
  | _, .view shape _ _ _ => NeverNull shape
  | _, _ => True

mutual

/-- The shape leaves nothing out of any value. -/
def Lossless : {α : Type} → Shape α → Prop
  | _, .timestamp precise => precise = true
  | _, .document => False
  | _, .optional shape => shape.NeverNull ∧ Lossless shape
  | _, .orNull _ shape => shape.NeverNull ∧ Lossless shape
  | _, .list shape => Lossless shape
  | _, .table shape => Lossless shape
  | _, .either first left second right => first ≠ second ∧ Lossless left ∧ Lossless right
  | _, .record _ _ _ fields => fields.keys.Nodup ∧ LosslessAll fields
  | _, .view shape _ _ _ => Lossless shape
  | _, _ => True

/-- The fields of a record leave nothing out that is not read back all the same. -/
def LosslessAll : {α : Type} → Fields α → Prop
  | _, .nil => True
  | _, .cons field shape rest => field.HidesAbsent ∧ Lossless shape ∧ LosslessAll rest

end

@[simp] theorem neverNull_text : text.NeverNull := trivial

@[simp] theorem neverNull_flag : flag.NeverNull := trivial

@[simp] theorem neverNull_int32 : int32.NeverNull := trivial

@[simp] theorem neverNull_quantity : quantity.NeverNull := trivial

@[simp] theorem neverNull_timestamp (precise : Bool) : (timestamp precise).NeverNull := trivial

@[simp] theorem lossless_text : text.Lossless := trivial

@[simp] theorem lossless_flag : flag.Lossless := trivial

@[simp] theorem lossless_int32 : int32.Lossless := trivial

@[simp] theorem lossless_quantity : quantity.Lossless := trivial

@[simp] theorem lossless_timestamp : (timestamp true).Lossless := rfl

@[simp] theorem lossless_optional {shape : Shape α} :
    (optional shape).Lossless ↔ shape.NeverNull ∧ shape.Lossless :=
  Iff.rfl

@[simp] theorem lossless_orNull {value : α} {shape : Shape α} :
    (orNull value shape).Lossless ↔ shape.NeverNull ∧ shape.Lossless :=
  Iff.rfl

@[simp] theorem lossless_list {shape : Shape α} : (list shape).Lossless ↔ shape.Lossless :=
  Iff.rfl

@[simp] theorem losslessAll_nil : LosslessAll .nil := trivial

@[simp] theorem losslessAll_cons {field : Field α} {shape : Shape α} {rest : Fields β} :
    LosslessAll (.cons field shape rest) ↔
      field.HidesAbsent ∧ shape.Lossless ∧ LosslessAll rest :=
  Iff.rfl

theorem write_ne_null {shape : Shape α} (h : shape.NeverNull) (a : α) : shape.write a ≠ .null := by
  induction shape using Shape.rec (motive_2 := fun _ _ => True) with
  | document => exact h.elim
  | optional shape ih => exact h.elim
  | orNull value shape ih => exact ih h a
  | either first left second right =>
    cases a with
    | inl a => exact Json.noConfusion
    | inr b => exact Json.noConfusion
  | view shape make parts make_parts ih => exact ih h (parts a)
  | nil => trivial
  | cons => trivial
  | _ => exact Json.noConfusion

/-- A lossless shape keeps every value.  A hidden field comes back as its default, any other one as
it is written. -/
theorem keeps_of_lossless {shape : Shape α} (h : shape.Lossless) (a : α) : shape.Keeps a := by
  induction shape using Shape.rec (motive_2 := fun _ fields => LosslessAll fields → ∀ a,
    KeepsAll fields a) with
  | timestamp precise => exact h
  | document => exact h.elim
  | optional shape ih =>
    obtain ⟨hnull, h⟩ := h
    cases a with
    | none => trivial
    | some a => exact ⟨write_ne_null hnull a, ih h a⟩
  | orNull value shape ih =>
    obtain ⟨hnull, h⟩ := h
    exact ⟨write_ne_null hnull a, ih h a⟩
  | list shape ih => exact fun a _ => ih h a
  | table shape ih => exact fun e _ => ih h e.2
  | either first left second right ihl ihr =>
    obtain ⟨hne, hl, hr⟩ := h
    cases a with
    | inl a => exact ihl hl a
    | inr b => exact ⟨hne, ihr hr b⟩
  | record name note strictness fields ih =>
    obtain ⟨hnodup, h⟩ := h
    exact ⟨hnodup, ih h a⟩
  | view shape make parts make_parts ih => exact ih h (parts a)
  | nil => trivial
  | cons field shape rest ih ihrest h a =>
    obtain ⟨hhidden, hshape, hrest⟩ := h
    obtain ⟨a, b⟩ := a
    refine ⟨?_, ihrest hrest b⟩
    split
    · exact hhidden a ‹_›
    · exact ih hshape a
  | _ => trivial

/-! ## Depth -/

mutual

/-- How many arrays and objects stand one inside the other, at most, in what is written. -/
def depth : {α : Type} → Shape α → Nat
  | _, .optional shape => depth shape
  | _, .orNull _ shape => depth shape
  | _, .list shape => depth shape + 1
  | _, .table shape => depth shape + 1
  | _, .either _ left _ right => max (depth left) (depth right) + 1
  | _, .record _ _ _ fields => depthAll fields + 1
  | _, .view shape _ _ _ => depth shape
  | _, _ => 0

/-- The greatest depth of a field. -/
def depthAll : {α : Type} → Fields α → Nat
  | _, .nil => 0
  | _, .cons _ shape rest => max (depth shape) (depthAll rest)

end

/-- What a lossless shape writes is plain.  Members of a record are as deep as the deepest of its
fields. -/
theorem plain_write {shape : Shape α} (h : shape.Lossless) (a : α) :
    (shape.write a).Plain shape.depth := by
  induction shape using Shape.rec (motive_2 := fun _ fields => LosslessAll fields → ∀ a,
    ∀ m ∈ members fields a, m.2.Plain (depthAll fields)) with
  | flag => exact .bool _ a
  | int32 => exact .integer _ (by have := a.le_toInt; omega) (by have := a.toInt_lt; omega)
  | int64 => exact .integer _ a.le_toInt (by have := a.toInt_lt; omega)
  | nat16 => exact .integer _ (by omega) (by have := a.toNat_lt; omega)
  | nat64 => exact .integer _ (by omega) (by have := a.toNat_lt; omega)
  | document => exact h.elim
  | optional shape ih =>
    cases a with
    | none => exact .null _
    | some a => exact ih h.2 a
  | orNull value shape ih => exact ih h.2 a
  | list shape ih =>
    refine .arr fun j hj => ?_
    obtain ⟨a, -, rfl⟩ := List.mem_map.mp hj
    exact ih h a
  | table shape ih =>
    refine .obj fun m hm => ?_
    obtain ⟨e, -, rfl⟩ := List.mem_map.mp hm
    exact ih h e.2
  | either first left second right ihl ihr =>
    obtain ⟨-, hl, hr⟩ := h
    cases a with
    | inl a =>
      refine .obj fun m hm => ?_
      obtain rfl := List.mem_singleton.mp hm
      exact (ihl hl a).mono (Nat.le_max_left ..)
    | inr b =>
      refine .obj fun m hm => ?_
      obtain rfl := List.mem_singleton.mp hm
      exact (ihr hr b).mono (Nat.le_max_right ..)
  | record name note strictness fields ih => exact .obj (ih h.2 a)
  | view shape make parts make_parts ih => exact ih h (parts a)
  | nil _ _ m hm => exact (List.not_mem_nil hm).elim
  | cons field shape rest ih ihrest h a m hm =>
    obtain ⟨-, hshape, hrest⟩ := h
    obtain ⟨a, b⟩ := a
    rcases eq_or_mem_of_mem_members hm with rfl | hm
    · exact (ih hshape a).mono (Nat.le_max_left ..)
    · exact (ihrest hrest b m hm).mono (Nat.le_max_right ..)
  | _ => exact .str _ _

/-! ## Round trips -/

/-- A lossless shape round-trips, if texts can be as deep as its documents. -/
theorem roundTrips_of_lossless {shape : Shape α} (h : shape.Lossless)
    (hdepth : shape.depth ≤ JsonText.maxDepth) : shape.RoundTrips := by
  have hdocument (a : α) : shape.ofJson (shape.write a) = .ok a :=
    ofJson_write shape (keeps_of_lossless h a)
  have htext (a : α) : JsonText.read shape (shape.write a).compact = .ok a :=
    (JsonText.read_compact ((plain_write h a).mono hdepth) shape a).mpr (hdocument a)
  refine ⟨hdocument, htext, fun j j' hj => ?_, fun cs cs' hcs => ?_⟩
  · obtain ⟨a, ha, rfl⟩ := Except.map_eq_ok.mp hj
    exact ⟨(hdocument a).trans ha.symm, Except.map_eq_ok.mpr ⟨a, hdocument a, rfl⟩⟩
  · obtain ⟨a, ha, rfl⟩ := Except.map_eq_ok.mp hcs
    exact ⟨(htext a).trans ha.symm, Except.map_eq_ok.mpr ⟨a, htext a, rfl⟩⟩

end Shape

end PipelinesOperator
