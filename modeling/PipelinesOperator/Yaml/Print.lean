import PipelinesOperator.Json.Basic
import PipelinesOperator.Yaml.Value

/-!
# Printing documents as YAML

Collections are printed in block style, two columns for each level, with the items of a
sequence in the column of its key; empty ones are printed as brackets.  A text is printed
plain if it reads back as that text, else between quotes; one of several lines is a literal
block.

## Main definitions

* `scalarText`: a text on one line
* `print`: a document
-/

namespace PipelinesOperator.Yaml

/-- A character that is printed as it is. -/
def isPrinted (c : Char) : Bool := isAllowed c && ! ['\t', '\r', '\uFEFF'].contains c

/-- Whether a plain scalar may start with a character and what follows it. -/
def startsPlain (c : Char) (rest : List Char) : Bool :=
  if ['-', '?', ':'].contains c then !atGap rest
  else !Scanner.indicators.contains c

/-- Whether nothing in a text would end a plain scalar early. -/
def staysPlain : List Char → Bool
  | [] => true
  | [c] => c ≠ ':'
  | c :: d :: rest =>
    !(c = ':' && atGap (d :: rest)) && !(isBlank c && d = '#') && staysPlain (d :: rest)

/-- Whether a text reads back as itself when it is printed plain. -/
def isPlain (s : String) : Bool :=
  let cs := s.toList
  let marked := [['-', '-', '-'], ['.', '.', '.']].contains (cs.take 3)
  (match cs with
    | [] => false
    | c :: rest => startsPlain c rest) &&
  !marked && staysPlain cs && cs.head? ≠ some ' ' && cs.getLast? ≠ some ' ' &&
  cs.all (fun c => isPrinted c && !isBreak c) &&
  (match plainValue s with
    | .str _ _ => true
    | _ => false)

/-- One character between double quotes. -/
def escapedChar (c : Char) : List Char :=
  let digits (width : Nat) : List Char :=
    let ds := (Nat.toDigits 16 c.toNat).map Char.toUpper
    List.replicate (width - ds.length) '0' ++ ds
  if c = '"' then ['\\', '"']
  else if c = '\\' then ['\\', '\\']
  else if c = '\x00' then ['\\', '0']
  else if c = '\x07' then ['\\', 'a']
  else if c = '\x08' then ['\\', 'b']
  else if c = '\t' then ['\\', 't']
  else if c = '\n' then ['\\', 'n']
  else if c = '\x0b' then ['\\', 'v']
  else if c = '\x0c' then ['\\', 'f']
  else if c = '\r' then ['\\', 'r']
  else if c = '\x1b' then ['\\', 'e']
  else if c = '\u0085' then ['\\', 'N']
  else if c = '\u00a0' then ['\\', '_']
  else if c = '\u2028' then ['\\', 'L']
  else if c = '\u2029' then ['\\', 'P']
  else if isPrinted c then [c]
  else if c.toNat ≤ 0xFF then '\\' :: 'x' :: digits 2
  else if c.toNat ≤ 0xFFFF then '\\' :: 'u' :: digits 4
  else '\\' :: 'U' :: digits 8

/-- A text between double quotes. -/
def doubleQuoted (s : String) : String :=
  String.ofList ('"' :: s.toList.flatMap escapedChar ++ ['"'])

/-- A text between single quotes. -/
def singleQuoted (s : String) : String :=
  String.ofList ('\'' :: s.toList.flatMap (fun c => if c = '\'' then ['\'', '\''] else [c]) ++ ['\''])

/-- A text on one line. -/
def scalarText (s : String) : String :=
  if isPlain s then s
  else if s.toList.all fun c => isPrinted c && !isBreak c then singleQuoted s
  else doubleQuoted s

/-- Whether a text is printed as a literal block: it has several lines, and no line ends with
a space. -/
def isLiteral (s : String) : Bool :=
  let lines := Text.split '\n' s.toList
  1 < lines.length && lines.all fun line =>
    line.getLast? ≠ some ' ' && line.all fun c => isPrinted c && !isBreak c

/-- The head of a literal block: what becomes of the line ends behind it, and its indentation
if the text starts with a space or an empty line. -/
def literalHead (s : String) : String :=
  let cs := s.toList
  let hint := if cs.head?.any fun c => c = ' ' ∨ c = '\n' then "2" else ""
  let chomp := match cs.reverse with
    | '\n' :: '\n' :: _ => "+"
    | '\n' :: _ => ""
    | _ => "-"
  "|" ++ hint ++ chomp

/-- The lines of a literal block. -/
def literalLines (s : String) : List String :=
  let lines := Text.splitOn '\n' s
  if lines.getLast? = some "" then lines.dropLast else lines

/-- A line one level further in; an empty line stays empty. -/
def indented (line : String) : String := if line = "" then "" else "  " ++ line

/-- A number. -/
def numberText : Json.Number → String
  | .integer n => toString n
  | .double (.infinite negative) => if negative then "-.inf" else ".inf"
  | .double .nan => ".nan"
  | .double d => d.json

/-- How a value stands behind a key or a dash: on the line itself, or on lines of its own
below a head.  Sequences are told apart, as those below a key are not indented. -/
inductive Layout where
  | line (text : String)
  | mapping (lines : List String)
  | sequence (lines : List String)
  | literal (head : String) (lines : List String)

/-- A value behind a key. -/
def Layout.behindKey (key : String) : Layout → List String
  | .line text => [scalarText key ++ ": " ++ text]
  | .mapping lines => (scalarText key ++ ":") :: lines.map indented
  | .sequence lines => (scalarText key ++ ":") :: lines
  | .literal head lines => (scalarText key ++ ": " ++ head) :: lines.map indented

/-- Lines behind a dash, which stands before the first. -/
def dashed : List String → List String
  | [] => ["-"]
  | line :: lines => ("- " ++ line) :: lines.map indented

/-- A value behind a dash. -/
def Layout.behindDash : Layout → List String
  | .line text => ["- " ++ text]
  | .mapping lines => dashed lines
  | .sequence lines => dashed lines
  | .literal head lines => ("- " ++ head) :: lines.map indented

mutual

/-- The layout of a document. -/
def layout : Json → Layout
  | .null => .line "null"
  | .bool b => .line (toString b)
  | .num n => .line (numberText n)
  | .str s => if isLiteral s then .literal (literalHead s) (literalLines s) else .line (scalarText s)
  | .arr [] => .line "[]"
  | .arr (j :: js) => .sequence ((layout j).behindDash ++ itemLines js)
  | .obj [] => .line "\x7b\x7d"
  | .obj (m :: ms) => .mapping ((layout m.2).behindKey m.1 ++ memberLines ms)

/-- The lines of some items. -/
def itemLines : List Json → List String
  | [] => []
  | j :: js => (layout j).behindDash ++ itemLines js

/-- The lines of some members. -/
def memberLines : List (String × Json) → List String
  | [] => []
  | m :: ms => (layout m.2).behindKey m.1 ++ memberLines ms

end

/-- The lines of a document at the root of a text. -/
def Layout.atRoot : Layout → List String
  | .line text => [text]
  | .mapping lines => lines
  | .sequence lines => lines
  | .literal head lines => head :: lines.map indented

/-- A document as YAML. -/
def print (j : Json) : String :=
  String.join ((layout j).atRoot.map fun line => line ++ "\n")

end PipelinesOperator.Yaml
