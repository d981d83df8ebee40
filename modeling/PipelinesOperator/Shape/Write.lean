import PipelinesOperator.Bytes.Base64
import PipelinesOperator.Shape.Basic

/-!
# Writing a value of a shape

A record is written as an object of its fields in order, without those that are hidden.
-/

namespace PipelinesOperator.Shape

mutual

/-- Writes a value as a document. -/
def write : {α : Type} → Shape α → α → Json
  | _, .text, s => .str s
  | _, .flag, b => .bool b
  | _, .int32, n => .ofInt n.toInt
  | _, .int64, n => .ofInt n.toInt
  | _, .nat16, n => .ofNat n.toNat
  | _, .nat64, n => .ofNat n.toNat
  | _, .quantity, q => .str q.text
  | _, .timestamp precise, t => .str (String.ofList (if precise then t.text else t.wholeText))
  | _, .bytes, content => .str (String.ofList (Base64.encode content))
  | _, .constant expected, _ => .str expected
  | _, .word spell _ _, a => .str (spell a)
  | _, .document, j => j
  | _, .optional _, none => .null
  | _, .optional shape, some a => write shape a
  | _, .orNull _ shape, a => write shape a
  | _, .list shape, as => .arr (as.map (write shape))
  | _, .table shape, t => .obj (t.entries.map fun e => (e.1, write shape e.2))
  | _, .either first left _ _, .inl a => .obj [(first, write left a)]
  | _, .either _ _ second right, .inr b => .obj [(second, write right b)]
  | _, .record _ _ _ fields, a => .obj (members fields a)
  | _, .view shape _ parts _, a => write shape (parts a)

/-- The members of a record. -/
def members : {α : Type} → Fields α → α → List (String × Json)
  | _, .nil, _ => []
  | _, .cons field shape rest, (a, b) =>
    if field.hidden a then members rest b else (field.key, write shape a) :: members rest b

end

end PipelinesOperator.Shape
