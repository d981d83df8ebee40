import PipelinesOperator.JsonText.Pass

/-!
# The tree of a text

`tree` makes the document tree of a JSON text.  It never fails: where the text breaks, the
tree holds the break, and a value that can be passed over but not read is a break behind
which the tree goes on.  So a reader of the tree, going through it in order, meets the same
fault first as one who goes through the text.
-/

namespace PipelinesOperator.JsonText

/-- Where a node stands in its text: the bytes taken before it; the bytes taken by a reader
who opens it and leaves at once, or who turns a key away; and the bytes taken behind it, for
a key behind its value. -/
structure Extent where
  before : Nat
  opened : Nat
  past : Nat
  deriving Repr

/-- The tree of a text or of a part of it. -/
abbrev Tree := Doc Extent Break

/-- The bytes taken by a reader who leaves an object at a cursor. -/
def leaveObject (c : Cursor) : Nat :=
  let c := c.skipBlanks
  match c.rest with
  | '\x7d' :: _ => c.index + 1
  | _ => c.index

/-- The bytes taken by a reader who leaves an array at a cursor. -/
def leaveArray (c : Cursor) : Nat :=
  let c := c.skipBlanks
  match c.rest with
  | ']' :: _ => c.index + 1
  | ',' :: rest => (Cursor.mk (c.index + 1) rest).skipBlanks.index
  | _ => c.index

/-- The node of a scalar that was read from `c`, or the break met in it. -/
def scalar {α : Type} (c : Cursor) (node : Extent → α → Tree) :
    Except Break (α × Cursor) → Tree × Option Cursor
  | .ok (a, behind) => (node ⟨c.index, c.index, behind.index⟩ a, some behind)
  | .error b => (.bad ⟨c.index, c.index, c.index⟩ b, (passValue c).toOption)

/-- The result of reading a word. -/
def wordValue {α : Type} (a : α) (c : Cursor) (rest expected : List Char) :
    Except Break (α × Cursor) := do
  .ok (a, ← word (c.index + 1) expected rest)

/-- How many containers may stand one inside the other. -/
def maxDepth : Nat := 127

mutual

/-- The tree of the value at a cursor, and the cursor behind it unless the text breaks
there.  Every step takes a character, so as many steps as there are characters are enough. -/
def value : Nat → Nat → Cursor → Tree × Option Cursor
  | 0, _, c => (.bad ⟨c.index, c.index, c.index⟩ (c.broken .endInValue), none)
  | n + 1, depth, c =>
    let c := c.skipBlanks
    match c.rest with
    | [] => (.bad ⟨c.index, c.index, c.index⟩ (c.broken .endInValue), none)
    | h :: rest =>
      let next : Cursor := ⟨c.index + 1, rest⟩
      if h = 'n' then scalar c (fun m _ => .null m) (wordValue () c rest ['u', 'l', 'l'])
      else if h = 't' then scalar c .bool (wordValue true c rest ['r', 'u', 'e'])
      else if h = 'f' then scalar c .bool (wordValue false c rest ['a', 'l', 's', 'e'])
      else if h = '-' then scalar c .num (number true next)
      else if h.isDigit then scalar c .num (number false c)
      else if h = '"' then
        scalar c (fun m cs => .str m (String.ofList cs)) (stringBody next.index rest)
      else if h = '[' then
        match depth with
        | 0 => (.bad ⟨c.index, c.index, c.index⟩ (c.broken .tooDeep), (passValue c).toOption)
        | depth + 1 =>
          let (trees, broken, behind) := items n depth true next
          -- If the list breaks off, the reader goes on behind it only if it can be passed over.
          let behind := behind.or (passValue c).toOption
          let past := (behind.map Cursor.index).getD next.index
          (.arr ⟨c.index, leaveArray next, past⟩ trees broken, behind)
      else if h = '\x7b' then
        match depth with
        | 0 => (.bad ⟨c.index, c.index, c.index⟩ (c.broken .tooDeep), (passValue c).toOption)
        | depth + 1 =>
          let (trees, broken, behind) := members n depth true next
          let behind := behind.or (passValue c).toOption
          let past := (behind.map Cursor.index).getD next.index
          (.obj ⟨c.index, leaveObject next, past⟩ trees broken, behind)
      else (.bad ⟨c.index, c.index, c.index⟩ (c.broken .valueExpected), none)

/-- The trees of the items of an array from a cursor on, the break behind them, and the
cursor behind the closing bracket. -/
def items : Nat → Nat → Bool → Cursor → List Tree × Option Break × Option Cursor
  | 0, _, _, c => ([], some (c.broken .endInList), none)
  | n + 1, depth, first, c =>
    let c := c.skipBlanks
    -- Where the next item begins, unless the list ends here.
    let start : Except Break (Option Cursor) :=
      match c.rest with
      | [] => .error (c.broken .endInList)
      | h :: rest =>
        if h = ']' then .ok none
        else if h = ',' ∧ ¬ first then
          let c := (Cursor.mk (c.index + 1) rest).skipBlanks
          match c.rest with
          | [] => .error (c.broken .endInValue)
          | h :: _ => if h = ']' then .error (c.broken .trailingComma) else .ok (some c)
        else if first then .ok (some c)
        else .error (c.broken .listCommaExpected)
    match start with
    | .error b => ([], some b, none)
    | .ok none => ([], none, some ⟨c.index + 1, c.rest.tail⟩)
    | .ok (some c) =>
      match value n depth c with
      | (tree, none) => ([tree], none, none)
      | (tree, some c) =>
        let (trees, broken, behind) := items n depth false c
        (tree :: trees, broken, behind)

/-- The trees of the members of an object from a cursor on, the break behind them, and the
cursor behind the closing brace. -/
def members : Nat → Nat → Bool → Cursor →
    List (Key Extent Break × Tree) × Option Break × Option Cursor
  | 0, _, _, c => ([], some (c.broken .endInObject), none)
  | n + 1, depth, first, c =>
    let c := c.skipBlanks
    -- Where the next key begins, unless the object ends here.
    let start : Except Break (Option Cursor) :=
      match c.rest with
      | [] => .error (c.broken .endInObject)
      | h :: rest =>
        if h = '\x7d' then .ok none
        else if h = ',' ∧ ¬ first then
          let c := (Cursor.mk (c.index + 1) rest).skipBlanks
          match c.rest with
          | [] => .error (c.broken .endInValue)
          | h :: _ =>
            if h = '"' then .ok (some c)
            else if h = '\x7d' then .error (c.broken .trailingComma)
            else .error (c.broken .keyNotString)
        else if first then
          if h = '"' then .ok (some c) else .error (c.broken .keyNotString)
        else .error (c.broken .objectCommaExpected)
    match start with
    | .error b => ([], some b, none)
    | .ok none => ([], none, some ⟨c.index + 1, c.rest.tail⟩)
    | .ok (some c) =>
      match stringBody (c.index + 1) c.rest.tail with
      | .error b => ([], some b, none)
      | .ok (name, behindKey) =>
        let name := String.ofList name
        let refused := leaveObject behindKey
        let colon := behindKey.skipBlanks
        match colon.rest with
        | ':' :: rest =>
          let start : Cursor := ⟨colon.index + 1, rest⟩
          match value n depth start with
          -- Nothing behind this value can be read, so the object ends with it.
          | (tree, none) =>
            let skip := match passValue start with
              | .error b => some b
              | .ok _ => none
            ([(⟨name, ⟨c.index, refused, refused⟩, skip⟩, tree)], none, none)
          | (tree, some behind) =>
            let (trees, broken, closing) := members n depth false behind
            let key : Key Extent Break := ⟨name, ⟨c.index, refused, leaveObject behind⟩, none⟩
            ((key, tree) :: trees, broken, closing)
        | other =>
          let b := colon.broken (if other.isEmpty then .endInObject else .colonExpected)
          let mark : Extent := ⟨colon.index, colon.index, colon.index⟩
          ([(⟨name, ⟨c.index, refused, refused⟩, some b⟩, .bad mark b)], none, none)

end

/-- A text read as a tree, and the break behind it when more than blanks follow. -/
structure Parsed where
  tree : Tree
  trailing : Option Break

/-- Reads a text as a tree. -/
def parse (text : List Char) : Parsed :=
  let (tree, behind) := value (2 * text.length + 2) maxDepth (.start text)
  let trailing := behind.bind fun c =>
    let c := c.skipBlanks
    if c.rest.isEmpty then none else some (c.broken .trailingCharacters)
  ⟨tree, trailing⟩

/-- Reads a text as a document. -/
def document (text : List Char) : Except Break Json := do
  let parsed := parse text
  let j ← parsed.tree.toJson
  match parsed.trailing with
  | some b => .error b
  | none => .ok j

end PipelinesOperator.JsonText
