import PipelinesOperator.Double.Notation
import PipelinesOperator.Yaml.Parts

/-!
# The values of a document

A plain scalar is what it looks like: nothing, a boolean, a number, or else a text.  Other
scalars are texts, unless their tag says what they are.  A tag of an application's own is the
path of the value behind it: `!argo.cache x` is the table of tables that leads there.
References are replaced by what they refer to, within limits on the depth and on the number
of replacements, so that a small text cannot stand for a huge value.

## Main definitions

* `plainValue`: what a plain scalar stands for
* `read`: the mapping at the root of a text
-/

namespace PipelinesOperator.Yaml

/-- Whether a text spells nothing. -/
def isNull (cs : List Char) : Bool := [['n', 'u', 'l', 'l'], ['N', 'u', 'l', 'l'],
  ['N', 'U', 'L', 'L'], ['~']].contains cs

/-- The boolean that a text spells. -/
def boolean? (cs : List Char) : Option Bool :=
  if [['t', 'r', 'u', 'e'], ['T', 'r', 'u', 'e'], ['T', 'R', 'U', 'E']].contains cs then some true
  else if [['f', 'a', 'l', 's', 'e'], ['F', 'a', 'l', 's', 'e'], ['F', 'A', 'L', 'S', 'E']].contains
    cs then some false
  else none

/-- Whether a text is a run of digits that starts with a zero too many. -/
def hasLeadingZero (cs : List Char) : Bool :=
  let digits := match cs with
    | '-' :: rest => rest
    | '+' :: rest => rest
    | cs => cs
  1 < digits.length && digits.head? = some '0' && digits.all Char.isDigit

/-- The natural of a text without a sign, in base sixteen, eight, two or ten. -/
def natural? (cs : List Char) : Option Nat :=
  match cs with
  | '0' :: 'x' :: digits => Text.natural? 16 digits
  | '0' :: 'o' :: digits => Text.natural? 8 digits
  | '0' :: 'b' :: digits => Text.natural? 2 digits
  | digits => if hasLeadingZero digits then none else Text.natural? 10 digits

/-- The integer that a text writes, up to 128 bits. -/
def integer? (cs : List Char) : Option Numeral :=
  match cs with
  | '-' :: cs => do
    let n ← natural? cs
    if n ≤ 0x8000000000000000 then some (.signed (-n))
    else if n ≤ 0x80000000000000000000000000000000 then some (.wide (-n))
    else none
  | cs => do
    let n ← natural? (if cs.head? = some '+' then cs.drop 1 else cs)
    if n < 0x10000000000000000 then some (.unsigned n)
    else if n < 0x100000000000000000000000000000000 then some (.wide n)
    else none

/-- The double that a text writes. -/
def double? (cs : List Char) : Option Double :=
  let signless := if cs.head? = some '+' then cs.drop 1 else cs
  let infinities : List (List Char) := [['.', 'i', 'n', 'f'], ['.', 'I', 'n', 'f'],
    ['.', 'I', 'N', 'F']]
  if cs.head? = some '+' ∧ (signless.head? = some '+' ∨ signless.head? = some '-') then none
  else if infinities.contains signless then some (.infinite false)
  else if cs.head? = some '-' ∧ infinities.contains (cs.drop 1) then some (.infinite true)
  else if [['.', 'n', 'a', 'n'], ['.', 'N', 'a', 'N'], ['.', 'N', 'A', 'N']].contains cs then
    some .nan
  else (Double.ofText? signless).filter Double.isFinite

/-- What a plain scalar stands for. -/
def plainValue (text : String) : Labelled :=
  let cs := text.toList
  if cs.isEmpty || isNull cs then .null none
  else match boolean? cs with
    | some b => .bool none b
    | none =>
      match integer? cs with
      | some n => .num none n
      | none =>
        match if hasLeadingZero cs then none else double? cs with
        | some d => .num none (.double d)
        | none => .str none text

/-- A value behind a tag.  An application's own tag is a path to it, with dots between the
keys. -/
def tagged (tag : Option Tag) (value : Labelled) : Labelled :=
  match Tag.localName? tag with
  | some name => value.nest none (Text.splitOn '.' name)
  | none => value

/-- What a scalar stands for. -/
def scalarValue (tag : Option Tag) (style : Style) (text : String) : Except Misfit Labelled :=
  let cs := text.toList
  let spelled (value : Option Labelled) (expected : String) : Except Misfit Labelled :=
    match value with
    | some value => .ok value
    | none => .error (.misspelled text expected)
  let read := if style = .plain then plainValue text else .str none text
  match tag with
  | none => .ok read
  | some tag =>
    if tag = Tag.standard "bool" then spelled ((boolean? cs).map (.bool none)) "a boolean"
    else if tag = Tag.standard "int" then spelled ((integer? cs).map (.num none)) "an integer"
    else if tag = Tag.standard "float" then
      spelled ((double? cs).map fun d => .num none (.double d)) "a float"
    else if tag = Tag.standard "null" then
      spelled (if isNull cs then some (.null none) else none) "null"
    else .ok (if Tag.isLocal tag then read else .str none text)

/-- What is found where a scalar of some text and value stands. -/
def foundScalar (text : String) : Labelled → Found
  | .null _ => .null
  | .bool _ b => .bool b
  | .num _ n => .num n
  | _ => .text text

/-- What is left of a document, and how many references were followed. -/
structure Expansion where
  parts : List (Part × Place)
  followed : Nat := 0

/-- A computation that goes along a document. -/
abbrev Expanding := StateT Expansion (Except Fault)

namespace Composition

variable (c : Composition)

/-- The next part, left where it is.  Where the document ends early, its fault is met. -/
def peek : Expanding (Part × Place) := do
  match (← get).parts with
  | part :: _ => return part
  | [] => throw (c.fault.getD .ended)

/-- Takes the next part. -/
def next : Expanding (Part × Place) := do
  let part ← c.peek
  modify fun e => { e with parts := e.parts.drop 1 }
  return part

/-- Goes along what an anchor stands for and comes back.  A hundred references may be
followed for each part of the document. -/
def follow {α : Type} (number : Nat) (along : Expanding α) : Expanding α := do
  let e ← get
  if c.parts.length * 100 < e.followed + 1 then throw .tooOften
  set ({ parts := (c.target? number).getD [], followed := e.followed + 1 } : Expansion)
  let a ← along
  modify fun there => { there with parts := e.parts }
  return a

/-- The text of a key. -/
def key : Nat → Way → Expanding String
  | 0, _ => throw .tooOften
  | n + 1, way => do
    match ← c.next with
    | (.scalar _ _ text, _) => return text
    | (.reference number, _) => c.follow number (key n way)
    | (.sequence _, place) => throw (.unfit way place (.notText .sequence))
    | (.mapping _, place) => throw (.unfit way place (.notText .map))
    | (.close, _) => throw .ended

/-- The text by which a way names a key. -/
def keyName? (part : Part) : Option String :=
  match part with
  | .scalar _ _ text => some text
  | _ => none

/-- One level further in, if there may be one. -/
def inner (depth : Nat) (place : Place) : Expanding Nat :=
  match depth with
  | 0 => throw (.tooDeep place)
  | depth + 1 => return depth

/-- The number of a layer at the next part. -/
def number : Nat → (depth : Nat) → Way → Expanding Labelled
  | 0, _, _ => throw .tooOften
  | n + 1, depth, way => do
    let unfit (place : Place) (tag : Option Tag) (found : Found) : Expanding Labelled :=
      throw (.unfit way place (.notNumber (if (Tag.localName? tag).isSome then none else some found)))
    match ← c.next with
    | (.scalar tag style text, place) =>
      match scalarValue tag style text with
      | .ok value =>
        match Tag.localName? tag, value with
        | none, .num _ (.unsigned n) => return .num none (.unsigned n)
        | _, value => unfit place tag (foundScalar text value)
      | .error misfit => throw (.unfit way place misfit)
    | (.reference anchor, _) => c.follow anchor (number n depth way)
    | (.sequence tag, place) => do
      if (Tag.localName? tag).isNone then let _ ← inner depth place
      unfit place tag .sequence
    | (.mapping tag, place) => do
      if (Tag.localName? tag).isNone then let _ ← inner depth place
      unfit place tag .map
    | (.close, _) => throw .ended

mutual

/-- The value at the next part, with at most so many collections one inside the other. -/
def value : Nat → (depth : Nat) → Way → Expanding Labelled
  | 0, _, _ => throw .tooOften
  | n + 1, depth, way => do
    match ← c.next with
    | (.scalar tag style text, place) => do
      match scalarValue tag style text with
      | .ok value => return tagged tag value
      | .error misfit => throw (.unfit way place misfit)
    | (.reference anchor, _) => c.follow anchor (value n depth way)
    | (.sequence tag, place) => do
      let items ← items n (← inner depth place) way 0
      return tagged tag (.arr none items none)
    | (.mapping tag, place) => do
      let members ← members n (← inner depth place) way true
      return tagged tag (Labelled.table members)
    | (.close, _) => throw .ended

/-- The items of a sequence from one of some index on. -/
def items : Nat → (depth : Nat) → Way → (index : Nat) → Expanding (List Labelled)
  | 0, _, _, _ => throw .tooOften
  | n + 1, depth, way, index => do
    if (← c.peek).1 = .close then do
      let _ ← c.next
      return []
    else do
      let item ← value n depth (way.item index)
      return item :: (← items n depth way (index + 1))

/-- The members of a mapping, which may be an envelope or not. -/
def members : Nat → (depth : Nat) → Way → (envelope : Bool) → Expanding Labelled.Members
  | 0, _, _, _ => throw .tooOften
  | n + 1, depth, way, envelope => do
    let (part, _) ← c.peek
    if part = .close then do
      let _ ← c.next
      return []
    else do
      let key ← c.key (n + 1) way
      let inside := way.member (keyName? part)
      let value ← if envelope && key = Labelled.numberKey then c.number (n + 1) depth inside
        else value n depth inside
      return (key, value) :: (← members n depth way envelope)

end

/-- How many collections may stand one inside the other. -/
def maxDepth : Nat := 128

/-- The members of the mapping at the root, which is no envelope.  A document without contents
has none. -/
def root : Expanding Labelled.Members := do
  if c.parts.isEmpty ∧ c.fault.isNone then return []
  else
    -- Each level of a document goes along its parts at most once.
    let steps := 4 * (maxDepth + 1) * (c.parts.length + 1)
    match ← c.next with
    | (.mapping _, place) => do c.members steps (← inner maxDepth place) none false
    | (.sequence _, place) => throw (.unfit none place (.notMapping .sequence))
    | (.scalar tag style text, place) =>
      if style = .plain ∧ text = "" then return []
      else match scalarValue tag style text with
        | .ok value => throw (.unfit none place (.notMapping (foundScalar text value)))
        | .error misfit => throw (.unfit none place misfit)
    | _ => throw .ended

/-- The mapping at the root of a document that is whole and stands alone. -/
def read : Except Fault Labelled := do
  let (members, _) ← c.root.run { parts := c.parts }
  match c.fault with
  | some fault => .error fault
  | none => if c.more then .error .several else .ok (Labelled.plainTable members)

end Composition

/-- The mapping at the root of a text. -/
def read (text : List Char) : Except Fault Labelled := (compose text).read

end PipelinesOperator.Yaml
