import PipelinesOperator.Text.Character

/-!
# What is wrong with a YAML text

A text that is no YAML breaks at some place, and the reader was about something that started
at another.  What is said of it names both, unless the place is the start of the text, of
which nothing is said.

## Main definitions

* `Problem`, `Setting`: what is wrong, and what the reader was about
* `Break.message`: what is said of a text that breaks
-/

namespace PipelinesOperator.Yaml

/-- A place in a text: its line and its column, counted from zero. -/
structure Place where
  line : Nat
  column : Nat
  deriving DecidableEq, Repr

namespace Place

/-- The start of a text. -/
def start : Place := ⟨0, 0⟩

/-- The words that name a place, if it is not the start. -/
def text (p : Place) : String :=
  if p = start then ""
  else " at line " ++ toString (p.line + 1) ++ " column " ++ toString (p.column + 1)

end Place

/-- Why a text breaks. -/
inductive Problem where
  | noToken
  | noColon
  | sequenceEntryHere
  | keyHere
  | valueHere
  | noDirectiveName
  | badDirectiveName
  | unknownDirective
  | noLineEnd
  | noVersionDot
  | longVersion
  | noVersion
  | noBlank
  | noGap
  | noExclamationMark
  | noTagText
  | noEscapedByte
  | badFirstByte
  | badFurtherByte
  | openTag
  | noName
  | zeroIndentation
  | tabIndentation
  | markerInScalar
  | openScalar
  | unknownEscape
  | noHexadecimal
  | noCharacter
  | colonInScalar
  | tabInScalar
  | noDocumentStart
  | secondVersion
  | otherVersion
  | secondHandle
  | unknownHandle
  | noContent
  | noDash
  | noKey
  | noCommaOrBracket
  | noCommaOrBrace
  deriving DecidableEq, Repr

/-- The wording of a problem. -/
def Problem.text : Problem → String
  | .noToken => "found character that cannot start any token"
  | .noColon => "could not find expected ':'"
  | .sequenceEntryHere => "block sequence entries are not allowed in this context"
  | .keyHere => "mapping keys are not allowed in this context"
  | .valueHere => "mapping values are not allowed in this context"
  | .noDirectiveName => "could not find expected directive name"
  | .badDirectiveName => "found unexpected non-alphabetical character"
  | .unknownDirective => "found unknown directive name"
  | .noLineEnd => "did not find expected comment or line break"
  | .noVersionDot => "did not find expected digit or '.' character"
  | .longVersion => "found extremely long version number"
  | .noVersion => "did not find expected version number"
  | .noBlank => "did not find expected whitespace"
  | .noGap => "did not find expected whitespace or line break"
  | .noExclamationMark => "did not find expected '!'"
  | .noTagText => "did not find expected tag URI"
  | .noEscapedByte => "did not find URI escaped octet"
  | .badFirstByte => "found an incorrect leading UTF-8 octet"
  | .badFurtherByte => "found an incorrect trailing UTF-8 octet"
  | .openTag => "did not find the expected '>'"
  | .noName => "did not find expected alphabetic or numeric character"
  | .zeroIndentation => "found an indentation indicator equal to 0"
  | .tabIndentation => "found a tab character where an indentation space is expected"
  | .markerInScalar => "found unexpected document indicator"
  | .openScalar => "found unexpected end of stream"
  | .unknownEscape => "found unknown escape character"
  | .noHexadecimal => "did not find expected hexadecimal number"
  | .noCharacter => "found invalid Unicode character escape code"
  | .colonInScalar => "found unexpected ':'"
  | .tabInScalar => "found a tab character that violates indentation"
  | .noDocumentStart => "did not find expected <document start>"
  | .secondVersion => "found duplicate %YAML directive"
  | .otherVersion => "found incompatible YAML document"
  | .secondHandle => "found duplicate %TAG directive"
  | .unknownHandle => "found undefined tag handle"
  | .noContent => "did not find expected node content"
  | .noDash => "did not find expected '-' indicator"
  | .noKey => "did not find expected key"
  | .noCommaOrBracket => "did not find expected ',' or ']'"
  | .noCommaOrBrace => "did not find expected ',' or '\x7d'"

/-- What the reader was about when a text broke. -/
inductive Setting where
  | nextToken
  | simpleKey
  | directive
  | version
  | handle
  | handleStart
  | handleEnd
  | handleText
  | tag
  | tagText
  | anchor
  | reference
  | block
  | quoted
  | escape
  | plain
  | node
  | blockNode
  | flowNode
  | blockSequence
  | blockMapping
  | flowSequence
  | flowMapping
  deriving DecidableEq, Repr

/-- The wording of a setting. -/
def Setting.text : Setting → String
  | .nextToken => "while scanning for the next token"
  | .simpleKey => "while scanning a simple key"
  | .directive => "while scanning a directive"
  | .version => "while scanning a %YAML directive"
  | .handle => "while scanning a %TAG directive"
  | .handleStart => "while scanning a tag directive"
  | .handleEnd => "while parsing a tag directive"
  | .handleText => "while parsing a %TAG directive"
  | .tag => "while scanning a tag"
  | .tagText => "while parsing a tag"
  | .anchor => "while scanning an anchor"
  | .reference => "while scanning an alias"
  | .block => "while scanning a block scalar"
  | .quoted => "while scanning a quoted scalar"
  | .escape => "while parsing a quoted scalar"
  | .plain => "while scanning a plain scalar"
  | .node => "while parsing a node"
  | .blockNode => "while parsing a block node"
  | .flowNode => "while parsing a flow node"
  | .blockSequence => "while parsing a block collection"
  | .blockMapping => "while parsing a block mapping"
  | .flowSequence => "while parsing a flow sequence"
  | .flowMapping => "while parsing a flow mapping"

/-- A break in a text: why and where, and what the reader was about and where that
started. -/
structure Break where
  problem : Problem
  place : Place
  setting : Option (Setting × Place) := none
  deriving DecidableEq, Repr

/-- The wording of a break.  Where the setting started is left out if that is where the text
breaks. -/
def Break.message (b : Break) : String :=
  b.problem.text ++ b.place.text ++
    match b.setting with
    | none => ""
    | some (setting, place) =>
      ", " ++ setting.text ++ (if place = b.place then "" else place.text)

end PipelinesOperator.Yaml
