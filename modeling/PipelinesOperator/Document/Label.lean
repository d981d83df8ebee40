import PipelinesOperator.Document.Fault

/-!
# Labels

A value can say which layer it comes from.  It then stands in an envelope: a table that has
the value under one key and the number of its layer under another.  Whatever else the table
holds goes with it.  A table with no value in it is a table like any other, except that it
has no number either.

## Main definitions

* `Labelled`: a tree whose values may be labelled
* `Labelled.table`: what a table with some members stands for
* `Labelled.ofTree`, `Labelled.ofRoot`: a tree with its envelopes opened
-/

namespace PipelinesOperator

/-- The number of the layer that a value says it comes from, if it says so. -/
abbrev Label := Option Nat

/-- A tree with its envelopes opened. -/
abbrev Labelled := Doc Label Empty

namespace Labelled

/-- The key of the number in an envelope. -/
def numberKey : String := "___figment_value_id"

/-- The key of the value in an envelope. -/
def valueKey : String := "___figment_value_value"

/-- What a number in an envelope has to be. -/
def numberType : String := "a 64-bit metadata id integer"

/-- The members of a table. -/
abbrev Members := List (String × Labelled)

/-- The last value that some members give to a key. -/
def last? (key : String) (members : Members) : Option Labelled := members.reverse.lookup key

/-- A table of some members, whatever their keys. -/
def plainTable (members : Members) : Labelled :=
  .obj none (members.map fun m => (⟨m.1, none, none⟩, m.2)) none

/-- What a table with some members stands for: what its envelope holds, or itself. -/
def table (members : Members) : Labelled :=
  match last? valueKey members, last? numberKey members with
  | some value, some (.num _ (.unsigned n)) => value.withMark (some n)
  | some value, _ => value
  | none, _ => plainTable (members.filter fun m => m.1 ≠ numberKey)

variable {μ φ : Type}

/-- The number in an envelope. -/
def number : Doc μ φ → Except (Fault μ φ) Labelled
  | .num _ (.unsigned n) => .ok (.num none (.unsigned n))
  | d => .error (d.wrong numberType true)

mutual

/-- A tree with its envelopes opened. -/
def ofTree : Doc μ φ → Except (Fault μ φ) Labelled
  | .null _ => .ok (.null none)
  | .bool _ b => .ok (.bool none b)
  | .num _ n => .ok (.num none n)
  | .str _ s => .ok (.str none s)
  | .arr m items broken => do
    let items ← ofItems items
    Doc.unbroken m broken (.arr none items none)
  | .obj m members broken => do
    let members ← ofMembers members
    Doc.unbroken m broken (table members)
  | .bad m f => .error ⟨.broken f, m, .before, []⟩

/-- The items of an array with their envelopes opened. -/
def ofItems : List (Doc μ φ) → Except (Fault μ φ) (List Labelled)
  | [] => .ok []
  | d :: ds => do
    let item ← ofTree d
    let items ← ofItems ds
    .ok (item :: items)

/-- The members of an object with their envelopes opened, the object perhaps being one. -/
def ofMembers : List (Key μ φ × Doc μ φ) → Except (Fault μ φ) Members
  | [] => .ok []
  | m :: ms => do
    let value ← if m.1.name = numberKey then number m.2 else ofTree m.2
    let members ← ofMembers ms
    .ok ((m.1.name, value) :: members)

end

/-- The members of an object that is no envelope, with the envelopes in it opened. -/
def ofPlainMembers : List (Key μ φ × Doc μ φ) → Except (Fault μ φ) Members
  | [] => .ok []
  | m :: ms => do
    let value ← ofTree m.2
    let members ← ofPlainMembers ms
    .ok ((m.1.name, value) :: members)

/-- The table at the root of a document, which is no envelope. -/
def ofRoot : Doc μ φ → Except (Fault μ φ) Labelled
  | .obj m members broken => do
    let members ← ofPlainMembers members
    Doc.unbroken m broken (plainTable members)
  | d => .error (d.wrong "a map" false)

end Labelled

end PipelinesOperator
