import PipelinesOperator.JsonText.Tree
import PipelinesOperator.Shape.Read

/-!
# Reading a text as a shape

The tree of the text is read, and whatever is at fault is placed in the text by the line and
the column behind the bytes that were taken when it was noticed.
-/

namespace PipelinesOperator.JsonText

/-- The manner of texts: behind the last field of a record only the closing bracket may
stand, so anything else is a trailing character. -/
def manner : Manner Extent Break where
  surplus _ mark items broken :=
    match items, broken with
    | d :: _, _ => some ⟨.broken ⟨.trailingCharacters, d.mark.before + 1⟩, mark, .before, []⟩
    | [], some b =>
      let reason :=
        if b.reason = .listCommaExpected ∨ b.reason = .endInValue then .trailingCharacters
        else b.reason
      some ⟨.broken ⟨reason, b.offset⟩, mark, .before, []⟩
    | [], none => none

/-- Reads a text by a reader of trees. -/
def readBy {α : Type} (reader : Tree → Except (Fault Extent Break) α) (text : List Char) :
    Except (Fault Extent Break) α := do
  let parsed := parse text
  let a ← reader parsed.tree
  match parsed.trailing with
  | some b => .error ⟨.broken b, parsed.tree.mark, .past, []⟩
  | none => .ok a

/-- Reads a text as a value of a shape. -/
def read {α : Type} (shape : Shape α) (text : List Char) : Except (Fault Extent Break) α :=
  readBy (shape.read manner) text

/-- How many bytes of the text were taken when a fault was noticed. -/
def offset (f : Fault Extent Break) : Nat :=
  match f.problem with
  | .broken b => b.offset
  | _ =>
    match f.site with
    | .before => f.mark.before
    | .opened => f.mark.opened
    | .past => f.mark.past

/-- The wording of a fault in a text. -/
def describe (text : List Char) (f : Fault Extent Break) : String :=
  placed text (offset f) (f.problem.message fun b => b.reason.message)

/-- The wording of a break in a text. -/
def describeBreak (text : List Char) (b : Break) : String := placed text b.offset b.reason.message

end PipelinesOperator.JsonText
