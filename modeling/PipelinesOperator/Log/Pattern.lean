import PipelinesOperator.Double.Notation
import PipelinesOperator.Text.Letter

/-!
# Values that a filter asks for

A clause of a filter can ask for the value of a field: a truth value, a number, or a pattern
that the value has to match.  What matters here is only whether the value is well written,
for a filter with one that is not is no filter.

Patterns are regular expressions for an automaton that goes through a text once.  So there
are no references back, nothing that looks ahead or behind, and no boundaries of words other
than those of ASCII.  A repetition that is counted would need a brace, and braces enclose the
field.

## Main definitions

* `Pattern.isWellFormed`: whether a text is a pattern
* `isValue`: whether a text is a value
-/

namespace PipelinesOperator.Log

namespace Pattern

/-- How the characters of a pattern are taken. -/
structure Mode where
  /-- Blanks are passed over, and so is a comment from a number sign to the end of the line. -/
  spaced : Bool := false
  /-- What is matched are bytes and not characters, and only those of ASCII may be. -/
  bytes : Bool := false
  deriving DecidableEq, Repr

/-- What follows blanks and comments. -/
def behindGaps : (comment : Bool) → List Char → List Char
  | _, [] => []
  | true, c :: cs => behindGaps (c ≠ '\n') cs
  | false, c :: cs =>
    if Text.isBlank c then behindGaps false cs
    else if c = '#' then behindGaps true cs
    else c :: cs

/-- What follows the characters that a mode passes over. -/
def Mode.skip (m : Mode) (cs : List Char) : List Char :=
  if m.spaced then behindGaps false cs else cs

/-! ## Escapes -/

/-- What one character, or an escape, stands for. -/
inductive Atom where
  | literal (c : Char)
  /-- Any character of some sort. -/
  | sort
  /-- A place between two characters. -/
  | place
  deriving DecidableEq, Repr

/-- The values of some digits of base sixteen, and what follows them. -/
def hexDigits (m : Mode) : Nat → List Char → Option (List Nat × List Char)
  | 0, cs => some ([], cs)
  | n + 1, cs =>
    match m.skip cs with
    | [] => none
    | c :: cs => do
      let digit ← Text.hexDigit? c
      let (digits, cs) ← hexDigits m n cs
      some (digit :: digits, cs)

/-- The character that an escape of some digits gives by number, and what follows them.  Of two
digits it gives a byte. -/
def numbered (m : Mode) (width : Nat) (cs : List Char) : Option (Atom × List Char) := do
  let (digits, cs) ← hexDigits m width cs
  let n := Text.ofDigits 16 digits
  if (n < 0xD800 ∨ (0xDFFF < n ∧ n ≤ 0x10FFFF)) ∧ ¬ (m.bytes ∧ width = 2 ∧ 0x80 ≤ n) then
    some (.literal (.ofNat n), cs)
  else none

/-- The categories of characters that one letter names. -/
def categories : List Char := ['c', 'l', 'm', 'n', 'p', 's', 'z']

/-- A category by its letter, and what follows it. -/
def category (m : Mode) (cs : List Char) : Option (Atom × List Char) :=
  match m.skip cs with
  | [] => none
  | c :: cs => if !m.bytes && categories.contains c.toLower then some (.sort, cs) else none

/-- The escape behind a backslash, and what follows it. -/
def escape (m : Mode) : List Char → Option (Atom × List Char)
  | [] => none
  | c :: cs =>
    if c = 'x' then numbered m 2 cs
    else if c = 'u' then numbered m 4 cs
    else if c = 'U' then numbered m 8 cs
    else if c = 'p' ∨ c = 'P' then category m cs
    else if ['d', 's', 'w'].contains c then some (.sort, cs)
    else if ['D', 'S', 'W'].contains c then if m.bytes then none else some (.sort, cs)
    else if ['a', 'f', 't', 'n', 'r', 'v'].contains c then some (.literal c, cs)
    else if c = 'A' ∨ c = 'z' then some (.place, cs)
    else if ['b', 'B', '<', '>'].contains c then if m.bytes then some (.place, cs) else none
    else if c.toNat < 0x80 ∧ ¬ Text.isAlphanumeric c then some (.literal c, cs)
    else none

/-! ## Classes -/

/-- The names of the classes of ASCII. -/
def classNames : List String :=
  ["alnum", "alpha", "ascii", "blank", "cntrl", "digit", "graph", "lower", "print", "punct",
    "space", "upper", "word", "xdigit"]

/-- A class of ASCII behind its first bracket: whether it is turned around, and what follows
it. -/
def namedClass? : List Char → Option (Bool × List Char)
  | ':' :: cs =>
    let negated := cs.head? = some '^'
    let cs := if negated then cs.drop 1 else cs
    let name := cs.takeWhile (· ≠ ':')
    match cs.drop name.length with
    | ':' :: ']' :: rest =>
      if classNames.contains (String.ofList name) then some (negated, rest) else none
    | _ => none
  | _ => none

/-- What follows some dashes. -/
def behindDashes (m : Mode) : Nat → List Char → List Char
  | 0, cs => m.skip cs
  | n + 1, cs =>
    match m.skip cs with
    | '-' :: cs => behindDashes m n cs
    | cs => cs

/-- What follows the start of a class behind its first bracket.  Dashes stand for themselves
here, and so does a closing bracket at the very start. -/
def behindClassStart (m : Mode) (cs : List Char) : Option (List Char) :=
  let cs := m.skip cs
  let negated := cs.head? = some '^'
  let cs := m.skip (if negated then cs.drop 1 else cs)
  let inside := match cs with
    | ']' :: cs => m.skip cs
    | cs => behindDashes m cs.length cs
  if inside.isEmpty || (negated && m.bytes) then none else some inside

/-- A character of a class or an escape in it, and what follows it. -/
def classAtom (m : Mode) : List Char → Option (Atom × List Char)
  | [] => none
  | '\\' :: cs => escape m cs
  | c :: cs => some (.literal c, cs)

/-- Whether an atom may stand in a class. -/
def Mode.admits (m : Mode) : Atom → Bool
  | .literal c => !m.bytes || c.toNat < 0x80
  | .sort => true
  | .place => false

/-- What follows an item of a class: an atom, or a range from one character to another. -/
def behindClassItem (m : Mode) (cs : List Char) : Option (List Char) := do
  let (first, cs) ← classAtom m cs
  if !m.admits first then none
  else
    let cs := m.skip cs
    -- A dash makes a range unless another dash or the end of the class follows it.
    let isRange := cs.head? = some '-' &&
      !(['-', ']'].any fun c => (m.skip (cs.drop 1)).head? = some c)
    if !isRange then some cs
    else do
      let (last, cs) ← classAtom m (m.skip (cs.drop 1))
      match first, last with
      | .literal a, .literal b => if a ≤ b && m.admits last then some cs else none
      | _, _ => none

/-- What follows a class, from within it and so many others. -/
def behindClass (m : Mode) : Nat → (depth : Nat) → List Char → Option (List Char)
  | 0, _, _ => none
  | n + 1, depth, cs =>
    match m.skip cs with
    | [] => none
    | '[' :: cs =>
      match namedClass? cs with
      | some (negated, cs) =>
        if negated && m.bytes then none else behindClass m n depth cs
      | none => do behindClass m n (depth + 1) (← behindClassStart m cs)
    | ']' :: cs =>
      match depth with
      | 0 => some cs
      | depth + 1 => behindClass m n depth cs
    -- The three operations between classes.
    | '&' :: '&' :: cs => behindClass m n depth cs
    | '-' :: '-' :: cs => behindClass m n depth cs
    | '~' :: '~' :: cs => behindClass m n depth cs
    | cs => do behindClass m n depth (← behindClassItem m cs)

/-! ## Groups -/

/-- The letters that set how a pattern is read. -/
def flags : List Char := ['i', 'm', 's', 'U', 'u', 'R', 'x']

/-- The mode that some letters set; those behind a dash take back what they stand for. -/
def Mode.set (m : Mode) (letters : List Char) : Option Mode :=
  let on := letters.takeWhile (· ≠ '-')
  let off := (letters.drop on.length).drop 1
  let all := on ++ off
  if all.length < letters.length && off.isEmpty then none
  else if all.all flags.contains && all.eraseDups.length = all.length then
    some ⟨on.contains 'x' || (m.spaced && !off.contains 'x'),
      off.contains 'u' || (m.bytes && !on.contains 'u')⟩
  else none

/-- Whether a text is the name of a group. -/
def isGroupName : List Char → Bool
  | [] => false
  | c :: cs => (c = '_' || Text.isLetter c) &&
      cs.all fun c => ['_', '.', '[', ']'].contains c || Text.isLetter c || Text.isNumber c

/-- What stands behind the parenthesis that opens a group. -/
inductive Opening where
  /-- A group, perhaps with a name. -/
  | group (mode : Mode) (name : Option (List Char))
  /-- Letters that set the mode from here on, and no group at all. -/
  | setting (mode : Mode)
  deriving DecidableEq, Repr

/-- What opens with a parenthesis, and what follows. -/
def opening (m : Mode) (cs : List Char) : Option (Opening × List Char) :=
  let name (cs : List Char) : Option (Opening × List Char) :=
    let name := cs.takeWhile (· ≠ '>')
    match cs.drop name.length with
    | _ :: rest => if isGroupName name then some (.group m (some name), rest) else none
    | [] => none
  match m.skip cs with
  | '?' :: 'P' :: '<' :: cs => name cs
  | '?' :: '<' :: cs => if cs.head? = some '=' || cs.head? = some '!' then none else name cs
  | '?' :: cs =>
    let letters := cs.takeWhile fun c => c ≠ ':' && c ≠ ')'
    match cs.drop letters.length with
    | ':' :: rest => (m.set letters).map fun m => (.group m none, rest)
    | ')' :: rest =>
      if letters.isEmpty then none else (m.set letters).map fun m => (.setting m, rest)
    | _ => none
  | cs => some (.group m none, cs)

/-! ## Patterns -/

/-- How far a pattern is read. -/
structure Reading where
  mode : Mode := {}
  /-- The modes around the open groups, the innermost first. -/
  outer : List Mode := []
  /-- Whether there is something that can be repeated. -/
  operand : Bool := false
  /-- The names of the groups. -/
  names : List (List Char) := []
  deriving DecidableEq, Repr

/-- Whether the rest of a pattern is well formed.  Every step takes a character. -/
def goesOn : Nat → Reading → List Char → Bool
  | 0, _, _ => false
  | n + 1, r, cs =>
    match r.mode.skip cs with
    | [] => r.outer.isEmpty
    | '(' :: cs =>
      match opening r.mode cs with
      | some (.group mode name, cs) =>
        !name.any r.names.contains &&
          goesOn n ⟨mode, r.mode :: r.outer, false, name.toList ++ r.names⟩ cs
      | some (.setting mode, cs) => goesOn n { r with mode, operand := false } cs
      | none => false
    | ')' :: cs =>
      match r.outer with
      | mode :: outer => goesOn n { r with mode, outer, operand := true } cs
      | [] => false
    | '|' :: cs => goesOn n { r with operand := false } cs
    | '[' :: cs =>
      match (behindClassStart r.mode cs).bind (behindClass r.mode n 0) with
      | some cs => goesOn n { r with operand := true } cs
      | none => false
    -- A filter ends at the first brace, so a count is never closed.
    | '\x7b' :: _ => false
    | '\\' :: cs =>
      match escape r.mode cs with
      | some (_, cs) => goesOn n { r with operand := true } cs
      | none => false
    | c :: cs =>
      if ['?', '*', '+'].contains c then
        r.operand && goesOn n r (if cs.head? = some '?' then cs.drop 1 else cs)
      else if c = '.' && r.mode.bytes then false
      else goesOn n { r with operand := true } cs

/-- Whether a text is a pattern. -/
def isWellFormed (cs : List Char) : Bool := goesOn (cs.length + 1) {} cs

end Pattern

/-- Whether a text is a value that a filter can ask for.  A truth value is a pattern too, so
only numbers are looked for. -/
def isValue (cs : List Char) : Bool := (Double.ofText? cs).isSome || Pattern.isWellFormed cs

end PipelinesOperator.Log
