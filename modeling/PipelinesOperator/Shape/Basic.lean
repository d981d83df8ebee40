import PipelinesOperator.Json.Canonical
import PipelinesOperator.Timestamp.Rfc3339

/-!
# Shapes

A shape describes how the values of a type stand in a document.  Reading, writing and the
published schema are all functions of the shape, so they cannot drift apart.

A record is an object with one member for each field.  A strict record may also be given as
the array of its fields in order, and takes every member at most once; a lenient one takes
only objects, and of a repeated member the last.
-/

namespace PipelinesOperator

/-- A quantity of a resource, kept as it was written. -/
structure Quantity where
  text : String
  deriving DecidableEq, Repr, Inhabited

/-- How a field stands in its record: its key, the value it has when the key is absent and
when an array ends before it (none when it has to be given), whether a value is left out
when it is written, and what is said of it. -/
structure Field (α : Type) where
  key : String
  absent : Option α
  short : Option α
  hidden : α → Bool
  note : Option String

namespace Field

variable {α : Type}

/-- A field that has to be given. -/
def required (key : String) (note : Option String) : Field α :=
  ⟨key, none, none, fun _ => false, note⟩

/-- A field with a default, which is written like any other value. -/
def defaulted (key : String) (value : α) (note : Option String) : Field α :=
  ⟨key, some value, some value, fun _ => false, note⟩

/-- A field that is left out when it has no value. -/
def optional (key : String) (note : Option String) : Field (Option α) :=
  ⟨key, some none, some none, Option.isNone, note⟩

/-- A field that may be absent from an object but not from an array, and is always
written. -/
def nullable (key : String) (note : Option String) : Field (Option α) :=
  ⟨key, some none, none, fun _ => false, note⟩

end Field

/-- Whether a record takes arrays and turns repeated members away. -/
inductive Strictness where
  | strict
  | lenient
  deriving DecidableEq, Repr

mutual

/-- How the values of a type stand in a document. -/
inductive Shape : Type → Type 1 where
  /-- A string. -/
  | text : Shape String
  /-- A boolean. -/
  | flag : Shape Bool
  /-- An integer of thirty-two bits. -/
  | int32 : Shape Int32
  /-- An integer of sixty-four bits. -/
  | int64 : Shape Int64
  /-- A natural of sixteen bits. -/
  | nat16 : Shape UInt16
  /-- A natural of sixty-four bits. -/
  | nat64 : Shape UInt64
  /-- A quantity: a string, or an integer that is kept as its text. -/
  | quantity : Shape Quantity
  /-- A timestamp, written with its fraction if it is precise. -/
  | timestamp (precise : Bool) : Shape Timestamp
  /-- Bytes as base64; `null` stands for none. -/
  | bytes : Shape (List UInt8)
  /-- One string and no other. -/
  | constant (word : String) : Shape Unit
  /-- One of several words. -/
  | word {α : Type} (spell : α → String) (read : String → Option α)
      (read_spell : ∀ a, read (spell a) = some a) : Shape α
  /-- Any document, kept in canonical form. -/
  | document : Shape Json
  /-- A value or `null`. -/
  | optional {α : Type} (shape : Shape α) : Shape (Option α)
  /-- A value, for which `null` may stand. -/
  | orNull {α : Type} (value : α) (shape : Shape α) : Shape α
  /-- An array. -/
  | list {α : Type} (shape : Shape α) : Shape (List α)
  /-- An object with any keys. -/
  | table {α : Type} (shape : Shape α) : Shape (Table α)
  /-- An object with one member that names an alternative. -/
  | either {α β : Type} (first : String) (left : Shape α) (second : String) (right : Shape β) :
      Shape (α ⊕ β)
  /-- An object with one member for each field. -/
  | record {α : Type} (name : String) (note : Option String) (strictness : Strictness)
      (fields : Fields α) : Shape α
  /-- The values of another type under another name. -/
  | view {α β : Type} (shape : Shape β) (make : β → α) (parts : α → β)
      (make_parts : ∀ a, make (parts a) = a) : Shape α

/-- The fields of a record. -/
inductive Fields : Type → Type 1 where
  | nil : Fields Unit
  | cons {α β : Type} (field : Field α) (shape : Shape α) (rest : Fields β) : Fields (α × β)

end

namespace Fields

/-- The keys of the fields in order. -/
def keys : {α : Type} → Fields α → List String
  | _, .nil => []
  | _, .cons field _ rest => field.key :: rest.keys

end Fields

/-- The shape of a structure: the record of its fields, taken apart and put together. -/
def Shape.struct {α β : Type} (name : String) (fields : Fields β) (make : β → α) (parts : α → β)
    (note : Option String := none) (strictness : Strictness := .strict)
    (make_parts : ∀ a, make (parts a) = a := by intro a; rfl) : Shape α :=
  .view (.record name note strictness fields) make parts make_parts

end PipelinesOperator
