import PipelinesOperator.Yaml.Break

/-!
# Reading along a YAML text

In YAML the column matters.  A cursor therefore knows its line and column beside what is left
of the text.  A line ends with a line feed, a carriage return, both of them, or one of the
three line ends of Unicode; in the value of a scalar the first four read as a line feed.
-/

namespace PipelinesOperator.Yaml

/-- A character that ends a line. -/
def isBreak (c : Char) : Bool :=
  c = '\n' ∨ c = '\r' ∨ c = '\u0085' ∨ c = '\u2028' ∨ c = '\u2029'

/-- A space or a tab. -/
def isBlank (c : Char) : Bool := c = ' ' ∨ c = '\t'

/-- A character of anchors, handles and names of directives. -/
def isWord (c : Char) : Bool := Text.isAlphanumeric c ∨ c = '_' ∨ c = '-'

/-- Whether a text stands at a blank, at the end of a line, or at its own end. -/
def atGap : List Char → Bool
  | [] => true
  | c :: _ => isBlank c || isBreak c

/-- Whether a text stands at the end of a line, or at its own end. -/
def atLineEnd : List Char → Bool
  | [] => true
  | c :: _ => isBreak c

/-- Whether a text starts with a word, a document marker say, that a gap follows. -/
def startsWith (word : List Char) (text : List Char) : Bool :=
  text.take word.length = word && atGap (text.drop word.length)

/-- A character that a text may hold. -/
def isAllowed (c : Char) : Bool :=
  let n := c.toNat
  n = 0x9 ∨ n = 0xA ∨ n = 0xD ∨ (0x20 ≤ n ∧ n ≤ 0x7E) ∨ n = 0x85 ∨ (0xA0 ≤ n ∧ n ≤ 0xD7FF) ∨
    (0xE000 ≤ n ∧ n ≤ 0xFFFD) ∨ 0x10000 ≤ n

/-- A place in a text with what is left of it. -/
structure Cursor where
  rest : List Char
  index : Nat := 0
  line : Nat := 0
  column : Nat := 0
  deriving Repr

namespace Cursor

/-- The place of a cursor. -/
def place (c : Cursor) : Place := ⟨c.line, c.column⟩

/-- A break at a cursor, in something that started at a place. -/
def fails {α : Type} (c : Cursor) (problem : Problem) (setting : Setting) (start : Place) :
    Except Break α :=
  .error ⟨problem, c.place, some (setting, start)⟩

/-- The cursor `n` characters on in the same line. -/
def skip (c : Cursor) (n : Nat) : Cursor :=
  let n := min n c.rest.length
  { c with rest := c.rest.drop n, index := c.index + n, column := c.column + n }

/-- The characters from here on that satisfy a property, none of them the end of a line, and
the cursor behind them. -/
def span (c : Cursor) (p : Char → Bool) : List Char × Cursor :=
  let taken := c.rest.takeWhile fun x => p x && !isBreak x
  (taken, c.skip taken.length)

/-- The cursor behind the spaces and tabs. -/
def skipBlanks (c : Cursor) : Cursor := (c.span isBlank).2

/-- The cursor at the end of the line. -/
def toLineEnd (c : Cursor) : Cursor := (c.span fun _ => true).2

/-- The end of the line at the cursor, as it reads in a scalar, and the cursor behind it. -/
def lineBreak? (c : Cursor) : Option (Char × Cursor) :=
  let behind (n : Nat) : Cursor :=
    { rest := c.rest.drop n, index := c.index + n, line := c.line + 1, column := 0 }
  match c.rest with
  | '\r' :: '\n' :: _ => some ('\n', behind 2)
  | '\r' :: _ => some ('\n', behind 1)
  | '\n' :: _ => some ('\n', behind 1)
  | '\u0085' :: _ => some ('\n', behind 1)
  | '\u2028' :: _ => some ('\u2028', behind 1)
  | '\u2029' :: _ => some ('\u2029', behind 1)
  | _ => none

/-- The cursor behind a comment and the end of the line.  Nothing else may be left of it. -/
def endLine (setting : Setting) (start : Place) (c : Cursor) : Except Break Cursor :=
  let c := c.skipBlanks
  let c := if c.rest.head? = some '#' then c.toLineEnd else c
  if atLineEnd c.rest then .ok ((c.lineBreak?.map Prod.snd).getD c)
  else c.fails .noLineEnd setting start

/-- Whether the cursor stands at a document marker. -/
def atMarker (c : Cursor) : Bool :=
  c.column = 0 && (startsWith ['-', '-', '-'] c.rest || startsWith ['.', '.', '.'] c.rest)

end Cursor

/-- The line ends between two parts of a scalar, folded: one alone becomes a space, and of
several the first goes, unless it is one that Unicode adds. -/
def fold : List Char → List Char
  | [] => []
  | ['\n'] => [' ']
  | '\n' :: rest => rest
  | breaks => breaks

end PipelinesOperator.Yaml
