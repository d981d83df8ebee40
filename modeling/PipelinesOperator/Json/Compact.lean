import PipelinesOperator.Json.Basic
import PipelinesOperator.Text.Character

/-!
# The compact text of a document

No blank stands between the parts.  A string escapes the quote, the backslash and the
control characters below the space, five of these by a letter and the others by number.
-/

namespace PipelinesOperator.Json

/-- One character of a string. -/
def escapedChar (c : Char) : List Char :=
  if c = '"' then ['\\', '"']
  else if c = '\\' then ['\\', '\\']
  else if c = '\x08' then ['\\', 'b']
  else if c = '\x0c' then ['\\', 'f']
  else if c = '\n' then ['\\', 'n']
  else if c = '\r' then ['\\', 'r']
  else if c = '\t' then ['\\', 't']
  else if c.toNat < 0x20 then
    ['\\', 'u', '0', '0', Text.hexDigit (c.toNat / 16), Text.hexDigit (c.toNat % 16)]
  else [c]

/-- A string between its quotes. -/
def compactString (s : String) : List Char :=
  '"' :: s.toList.flatMap escapedChar ++ ['"']

/-- The text of a number. -/
def Number.text : Number → List Char
  | .integer n => (toString n).toList
  | .double d => d.json.toList

mutual

/-- The compact text of a document. -/
def compact : Json → List Char
  | .null => ['n', 'u', 'l', 'l']
  | .bool true => ['t', 'r', 'u', 'e']
  | .bool false => ['f', 'a', 'l', 's', 'e']
  | .num n => n.text
  | .str s => compactString s
  | .arr [] => ['[', ']']
  | .arr (j :: js) => '[' :: compact j ++ compactItems js
  | .obj [] => ['\x7b', '\x7d']
  | .obj (m :: ms) => '\x7b' :: compactString m.1 ++ ':' :: compact m.2 ++ compactMembers ms

/-- The items of an array behind its first, and the closing bracket. -/
def compactItems : List Json → List Char
  | [] => [']']
  | j :: js => ',' :: compact j ++ compactItems js

/-- The members of an object behind its first, and the closing brace. -/
def compactMembers : List (String × Json) → List Char
  | [] => ['\x7d']
  | m :: ms => ',' :: compactString m.1 ++ ':' :: compact m.2 ++ compactMembers ms

end

/-- The compact text as a string. -/
def text (j : Json) : String := String.ofList j.compact

end PipelinesOperator.Json
