/-!
# Breaks in the text of a document

A text that is no JSON document breaks at some byte.  What is said of a break is its
reason and the line and column at which it is noticed, both counted in bytes.
-/

namespace PipelinesOperator.JsonText

/-- Why a text is no JSON document. -/
inductive Reason where
  | endInList
  | endInObject
  | endInString
  | endInValue
  | colonExpected
  | listCommaExpected
  | objectCommaExpected
  | identExpected
  | valueExpected
  | invalidEscape
  | invalidNumber
  | numberOutOfRange
  | controlCharacter
  | keyNotString
  | loneSurrogate
  | trailingComma
  | trailingCharacters
  | unfinishedEscape
  | tooDeep
  deriving DecidableEq, Repr

/-- The wording of a reason. -/
def Reason.message : Reason → String
  | .endInList => "EOF while parsing a list"
  | .endInObject => "EOF while parsing an object"
  | .endInString => "EOF while parsing a string"
  | .endInValue => "EOF while parsing a value"
  | .colonExpected => "expected `:`"
  | .listCommaExpected => "expected `,` or `]`"
  | .objectCommaExpected => "expected `,` or `\x7d`"
  | .identExpected => "expected ident"
  | .valueExpected => "expected value"
  | .invalidEscape => "invalid escape"
  | .invalidNumber => "invalid number"
  | .numberOutOfRange => "number out of range"
  | .controlCharacter => "control character (\\u0000-\\u001F) found while parsing a string"
  | .keyNotString => "key must be a string"
  | .loneSurrogate => "lone leading surrogate in hex escape"
  | .trailingComma => "trailing comma"
  | .trailingCharacters => "trailing characters"
  | .unfinishedEscape => "unexpected end of hex escape"
  | .tooDeep => "recursion limit exceeded"

/-- A break: its reason, and how many bytes were taken when it was noticed. -/
structure Break where
  reason : Reason
  offset : Nat
  deriving DecidableEq, Repr

/-- The line and the column behind the first `offset` bytes of a text.  Lines count from
one; the column is the number of bytes behind the last line feed. -/
def lineColumn (text : List Char) (offset : Nat) : Nat × Nat :=
  go text offset 1 0
where
  /-- Walks through the text with the bytes left, the line and the column so far. -/
  go : List Char → Nat → Nat → Nat → Nat × Nat
    | [], _, line, column => (line, column)
    | c :: rest, left, line, column =>
      if left = 0 then (line, column)
      else if c = '\n' then go rest (left - 1) (line + 1) 0
      else if left < c.utf8Size then (line, column + left)
      else go rest (left - c.utf8Size) line (column + c.utf8Size)

/-- The words that say where in a text something was noticed. -/
def placed (text : List Char) (offset : Nat) (message : String) : String :=
  let (line, column) := lineColumn text offset
  message ++ " at line " ++ toString line ++ " column " ++ toString column

end PipelinesOperator.JsonText
