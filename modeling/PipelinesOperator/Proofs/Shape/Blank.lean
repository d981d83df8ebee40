import PipelinesOperator.Proofs.Json.Frame
import PipelinesOperator.Proofs.Table
import PipelinesOperator.Shape.Write

/-!
# Empty texts in what is written

An empty text in a document that a value is written as stems from an empty text in the value.  So
it is told from the shape which of the texts of a value have to be looked at, and behind which path
each of them is found.

## Main definitions

* `Shape.BlankAt shape a path`: in what the value `a` is written as, an empty text stands behind
  `path`
* `Shape.BlankIn fields a path`: the same for the fields of a record

## Main results

* `blankIn_of_blankAt_struct`: an empty text in a structure is one in a field
* `blankAt_text`, `blankAt_quantity`, `blankAt_word`, `blankAt_optional`: what it says of the value
-/

namespace PipelinesOperator

namespace Json

theorem at?_str_eq_str {s s' : String} {path : List String} :
    (Json.str s).at? path = some (.str s') ↔ path = [] ∧ s = s' := by
  cases path with
  | nil => simp [at?]
  | cons key path => simp [at?_cons, get?, members]

/-- Behind a path into a document that has no members and is no text there is no text. -/
theorem at?_ne_str {j : Json} (h : j.members = []) (hj : ∀ s, j ≠ .str s) (path : List String)
    (s : String) : j.at? path ≠ some (.str s) := by
  cases path with
  | nil => exact fun heq => hj s (Option.some.inj heq)
  | cons key path => simp [at?_cons, get?, h]

/-- The member of a key is one of the members. -/
theorem mem_of_get?_obj {ms : List (String × Json)} {key : String} {j : Json}
    (h : (obj ms).get? key = some j) : (key, j) ∈ ms := by
  rw [get?_eq_lookup] at h
  exact List.mem_reverse.mp (mem_of_lookup_eq_some h)

end Json

namespace Shape

variable {α β : Type} {path : List String}

/-- An empty text stands behind a path in what a value is written as. -/
def BlankAt (shape : Shape α) (a : α) (path : List String) : Prop :=
  (shape.write a).at? path = some (.str "")

/-- An empty text stands behind a path in what one of the fields of a record is written as. -/
def BlankIn : {α : Type} → Fields α → α → List String → Prop
  | _, .nil, _, _ => False
  | _, .cons field shape rest, (a, b), path =>
    (∃ behind, path = field.key :: behind ∧ shape.BlankAt a behind) ∨ BlankIn rest b path

@[simp] theorem blankIn_nil : ¬BlankIn .nil () path := id

@[simp] theorem blankIn_cons {field : Field α} {shape : Shape α} {rest : Fields β} {a : α} {b : β} :
    BlankIn (.cons field shape rest) (a, b) path ↔
      (∃ behind, path = field.key :: behind ∧ shape.BlankAt a behind) ∨ BlankIn rest b path :=
  Iff.rfl

@[simp] theorem blankAt_text {s : String} : text.BlankAt s path ↔ path = [] ∧ s = "" :=
  Json.at?_str_eq_str

@[simp] theorem blankAt_quantity {q : Quantity} :
    quantity.BlankAt q path ↔ path = [] ∧ q.text = "" :=
  Json.at?_str_eq_str

@[simp] theorem blankAt_word {spell : α → String} {read : String → Option α}
    {read_spell : ∀ a, read (spell a) = some a} {a : α} :
    (word spell read read_spell).BlankAt a path ↔ path = [] ∧ spell a = "" := Json.at?_str_eq_str

@[simp] theorem not_blankAt_flag {b : Bool} : ¬flag.BlankAt b path :=
  Json.at?_ne_str rfl (fun _ => Json.noConfusion) path ""

@[simp] theorem not_blankAt_int32 {n : Int32} : ¬int32.BlankAt n path :=
  Json.at?_ne_str rfl (fun _ => Json.noConfusion) path ""

@[simp] theorem blankAt_optional {shape : Shape α} {value : Option α} :
    (optional shape).BlankAt value path ↔ ∃ a, value = some a ∧ shape.BlankAt a path := by
  cases value with
  | none =>
    have h : ¬(optional shape).BlankAt none path :=
      Json.at?_ne_str rfl (fun _ => Json.noConfusion) path ""
    exact iff_of_false h (by simp)
  | some a =>
    constructor
    · exact fun h => ⟨a, rfl, h⟩
    · rintro ⟨_, ⟨⟩, h⟩
      exact h

/-- An empty text behind a path into the members of a record is one in a field. -/
theorem blankIn_of_mem_members {fields : Fields α} {a : α} {key : String} {j : Json}
    {behind : List String} (hmem : (key, j) ∈ members fields a)
    (h : j.at? behind = some (.str "")) : BlankIn fields a (key :: behind) := by
  induction fields using Fields.rec (motive_1 := fun _ _ => True) with
  | nil => cases hmem
  | cons field shape rest _ ih =>
    obtain ⟨a, b⟩ := a
    rw [members] at hmem
    split at hmem
    · exact .inr (ih hmem)
    · rcases List.mem_cons.mp hmem with heq | hmem
      · obtain ⟨rfl, rfl⟩ := Prod.mk.inj heq
        exact .inl ⟨behind, rfl, h⟩
      · exact .inr (ih hmem)
  | _ => trivial

/-- An empty text in what a structure is written as is one in a field. -/
theorem blankIn_of_blankAt_struct {name : String} {fields : Fields β} {make : β → α}
    {parts : α → β} {note : Option String} {strictness : Strictness}
    {make_parts : ∀ a, make (parts a) = a} {a : α}
    (h : (struct name fields make parts note strictness make_parts).BlankAt a path) :
    BlankIn fields (parts a) path := by
  cases path with
  | nil => cases h
  | cons key behind =>
    have h : (Json.obj (members fields (parts a))).at? (key :: behind) = some (.str "") := h
    rw [Json.at?_cons] at h
    obtain ⟨j, hget, hj⟩ := Option.bind_eq_some_iff.mp h
    exact blankIn_of_mem_members (Json.mem_of_get?_obj hget) hj

end Shape

end PipelinesOperator
