import PipelinesOperator.Bytes.Base64
import PipelinesOperator.Document.Fault
import PipelinesOperator.Shape.Basic

/-!
# Reading a tree as a shape

A record is read in two passes.  The first goes through the members as they stand and tries
each one, so that the fault reported is the first in the document; the second gathers the
fields in their order, and finds the ones that are missing.  Members without a field are
passed over.
-/

namespace PipelinesOperator

/-- What the readers of documents and of the configuration do differently: what is made of
items of an array, or of a break, behind the last field of a record. -/
structure Manner (μ φ : Type) where
  surplus : (size : Nat) → (mark : μ) → List (Doc μ φ) → Option φ → Option (Fault μ φ)

/-- The manner of whole documents: items to spare are one fault, whatever they are. -/
def Manner.document : Manner Unit Empty where
  surplus size mark items _ :=
    if items.isEmpty then none else some ⟨.tooLong (size + items.length), mark, .past, []⟩

namespace Shape

variable {μ φ : Type}

/-- Reads an integer between two bounds. -/
def readWhole (name : String) (least greatest : Int) (d : Doc μ φ) : Except (Fault μ φ) Int :=
  let check (m : μ) (numeral : Numeral) (n : Int) : Except (Fault μ φ) Int :=
    if least ≤ n ∧ n ≤ greatest then .ok n
    else .error ⟨.wrongValue (.num numeral) name, m, .past, []⟩
  match d with
  | .num m (.unsigned n) => check m (.unsigned n) n
  | .num m (.signed n) => check m (.signed n) n
  | d => .error (d.wrong name false)

/-- Reads each item of an array. -/
def readItems {α : Type} (read : Doc μ φ → Except (Fault μ φ) α) :
    Nat → List (Doc μ φ) → Except (Fault μ φ) (List α)
  | _, [] => .ok []
  | i, d :: ds => do
    let a ← (read d).mapError (Fault.within (toString i))
    let as ← readItems read (i + 1) ds
    .ok (a :: as)

/-- Reads the value of each member of an object. -/
def readMembers {α : Type} (read : Doc μ φ → Except (Fault μ φ) α) :
    List (Key μ φ × Doc μ φ) → Except (Fault μ φ) (List (String × α))
  | [] => .ok []
  | (key, d) :: rest => do
    let a ← (read d).mapError (Fault.within key.name)
    let as ← readMembers read rest
    .ok ((key.name, a) :: as)

/-- The value of a key among the members of an object: the last one given. -/
def lookup (key : String) : List (Key μ φ × Doc μ φ) → Option (Doc μ φ)
  | [] => none
  | (k, d) :: rest => (lookup key rest).or (if k.name = key then some d else none)

/-- A fault met in the value of a member, as seen from its record. -/
def inMember (key : Key μ φ) (f : Fault μ φ) : Fault μ φ :=
  match f.problem, f.path with
  | .wrongValue (.text _) _, [] => { f with mark := key.mark, site := .past, path := [key.name] }
  | _, _ => f.within key.name

/-- Tries every member in turn: one of a field is read, any other passed over, and a
repeated one is turned away if the record is strict. -/
def tryMembers (strictness : Strictness) (keys : List String)
    (attempt : String → Doc μ φ → Except (Fault μ φ) Unit) :
    List String → List (Key μ φ × Doc μ φ) → Except (Fault μ φ) Unit
  | _, [] => .ok ()
  | seen, (key, d) :: rest =>
    if key.name ∈ keys then
      if strictness = .strict ∧ key.name ∈ seen then
        .error ⟨.duplicateField key.name, key.mark, .opened, []⟩
      else do
        (attempt key.name d).mapError (inMember key)
        tryMembers strictness keys attempt (key.name :: seen) rest
    else match key.skip with
      | some f => .error ⟨.broken f, key.mark, .past, [key.name]⟩
      | none => tryMembers strictness keys attempt seen rest

mutual

/-- Reads a tree as a value of a shape. -/
def read (manner : Manner μ φ) : {α : Type} → Shape α → Doc μ φ → Except (Fault μ φ) α
  | _, .text, d =>
    match d with
    | .str _ s => .ok s
    | d => .error (d.wrong "a string" false)
  | _, .flag, d =>
    match d with
    | .bool _ b => .ok b
    | d => .error (d.wrong "a boolean" false)
  | _, .int32, d => (readWhole "i32" (-2147483648) 2147483647 d).map Int32.ofInt
  | _, .int64, d =>
    (readWhole "i64" (-9223372036854775808) 9223372036854775807 d).map Int64.ofInt
  | _, .nat16, d => (readWhole "u16" 0 65535 d).map fun n => UInt16.ofNat n.toNat
  | _, .nat64, d => (readWhole "u64" 0 18446744073709551615 d).map fun n => UInt64.ofNat n.toNat
  | _, .quantity, d =>
    match d with
    | .str _ s => .ok ⟨s⟩
    | .num _ (.unsigned n) => .ok ⟨toString n⟩
    | .num _ (.signed n) => .ok ⟨toString n⟩
    | d => .error (d.wrong "Quantity" true)
  | _, .timestamp _, d =>
    match d with
    | .str m s =>
      match Timestamp.read s.toList with
      | .ok t => .ok t
      | .error f => .error ⟨.misspelled f.message, m, .past, []⟩
    | d => .error (d.wrong "an RFC 3339 formatted date and time string" false)
  | _, .bytes, d =>
    match d with
    -- Only here does null stand for a value: no bytes.
    | .null _ => .ok []
    | .str m s =>
      match Base64.decode s.toList with
      | .ok content => .ok content
      | .error f => .error ⟨.misspelled f.message, m, .past, []⟩
    | d => .error (d.wrong "a base64-encoded string" false)
  | _, .constant expected, d =>
    match d with
    | .str m s =>
      if s = expected then .ok () else .error ⟨.wrongValue (.text s) expected, m, .past, []⟩
    | d => .error (d.wrong "a string" false)
  | _, .word _ readWord _, d =>
    match d with
    | .str m s =>
      match readWord s with
      | some a => .ok a
      | none => .error ⟨.unknownVariant s [], m, .past, []⟩
    | d => .error (d.wrong "a string" false)
  | _, .document, d =>
    match d.toJson with
    -- Objects come out sorted, each key with the last of its values.
    | .ok j => .ok j.canonical
    | .error f => .error ⟨.broken f, d.mark, .before, []⟩
  | _, .optional shape, d =>
    match d with
    | .null _ => .ok none
    | d => (read manner shape d).map some
  | _, .orNull value shape, d =>
    match d with
    | .null _ => .ok value
    | d => read manner shape d
  | _, .list shape, d =>
    match d with
    | .arr m items broken => do
      let as ← readItems (read manner shape) 0 items
      Doc.unbroken m broken as
    | d => .error (d.wrong "a sequence" false)
  | _, .table shape, d =>
    match d with
    | .obj m members broken => do
      let as ← readMembers (read manner shape) members
      Doc.unbroken m broken (Table.ofList as)
    | d => .error (d.wrong "a map" false)
  | _, .either first left second right, d =>
    match d with
    | .obj m members broken =>
      match members, broken with
      -- A case is an object of one member; its name alone would be one without a value.
      | [(key, d)], none =>
        if key.name = first then
          ((read manner left d).map .inl).mapError (Fault.within key.name)
        else if key.name = second then
          ((read manner right d).map .inr).mapError (Fault.within key.name)
        else .error ⟨.unknownVariant key.name [first, second], key.mark, .opened, []⟩
      | _, some f => .error ⟨.broken f, m, .before, []⟩
      | _, none => .error ⟨.wrongValue .map "map with a single key", m, .before, []⟩
    | .str m s =>
      if s = first ∨ s = second then
        .error ⟨.wrongType .unitVariant "newtype variant", m, .past, []⟩
      else .error ⟨.unknownVariant s [first, second], m, .past, []⟩
    | d => .error (d.wrong "string or map" false)
  | _, .record name _ strictness fields, d =>
    match d with
    | .obj m members broken => do
      -- First every value as it stands, so that the first fault of the document is the one
      -- reported; a field that is missing is looked for only behind them.
      tryMembers strictness fields.keys (readField manner fields) [] members
      Doc.unbroken m broken ()
      gather manner m fields members
    | .arr m items broken =>
      match strictness with
      -- Only a strict record may also be given by position.
      | .strict => place manner name fields.keys.length m fields 0 items broken
      | .lenient => .error (d.wrong name true)
    | d =>
      match strictness with
      | .strict => .error (d.wrong ("struct " ++ name) false)
      | .lenient => .error (d.wrong name false)
  | _, .view shape make _ _, d => (read manner shape d).map make

/-- Reads the value of a field and forgets it; a key without a field has no fault. -/
def readField (manner : Manner μ φ) :
    {α : Type} → Fields α → String → Doc μ φ → Except (Fault μ φ) Unit
  | _, .nil, _, _ => .ok ()
  | _, .cons field shape rest, key, d =>
    if field.key = key then (read manner shape d).map fun _ => ()
    else readField manner rest key d

/-- Gathers the fields of a record from the members of an object. -/
def gather (manner : Manner μ φ) (mark : μ) :
    {α : Type} → Fields α → List (Key μ φ × Doc μ φ) → Except (Fault μ φ) α
  | _, .nil, _ => .ok ()
  | _, .cons field shape rest, members => do
    -- Of repeated members the last one counts; strict records have turned them away before.
    let a ← match lookup field.key members with
      | some d => read manner shape d
      | none =>
        match field.absent with
        | some a => .ok a
        | none => .error ⟨.missingField field.key, mark, .past, []⟩
    let b ← gather manner mark rest members
    .ok (a, b)

/-- Takes the fields of a record from the items of an array in order. -/
def place (manner : Manner μ φ) (name : String) (size : Nat) (mark : μ) :
    {α : Type} → Fields α → Nat → List (Doc μ φ) → Option φ → Except (Fault μ φ) α
  | _, .nil, i, items, broken =>
    match manner.surplus i mark items broken with
    | some f => .error f
    | none => .ok ()
  | _, .cons field shape rest, i, items, broken => do
    let (a, later) ← match items with
      | d :: later =>
        ((read manner shape d).mapError (Fault.within (toString i))).map fun a => (a, later)
      | [] =>
        -- An array that breaks off here is worse than one that ends.
        match broken with
        | some f => .error ⟨.broken f, mark, .before, []⟩
        | none =>
          match field.short with
          | some a => .ok (a, [])
          | none => .error ⟨.tooShort i name size, mark, .past, []⟩
    let b ← place manner name size mark rest (i + 1) later broken
    .ok (a, b)

end

/-- Reads a document as a value of a shape. -/
def ofJson {α : Type} (shape : Shape α) (j : Json) : Except (Fault Unit Empty) α :=
  shape.read .document (Doc.ofJson j)

end Shape

end PipelinesOperator
