import PipelinesOperator.Yaml.Cursor

/-!
# Tokens of YAML

The tokens show the structure of a text that its columns only imply: where a block
collection starts and ends, and which scalar is a key.
-/

namespace PipelinesOperator.Yaml

/-- A tag, or a part of one: bytes, which need not spell a text. -/
abbrev Tag := List UInt8

namespace Tag

/-- The bytes of characters of ASCII. -/
def ofAscii (cs : List Char) : Tag := cs.map fun c => .ofNat c.toNat

/-- What the tags start with that YAML itself gives a meaning. -/
def standardLead : Tag := ofAscii "tag:yaml.org,2002:".toList

/-- The full form of a tag that YAML itself gives a meaning. -/
def standard (name : String) : Tag := standardLead ++ ofAscii name.toList

/-- Whether a tag is of an application's own: it starts with an exclamation mark. -/
def isLocal (tag : Tag) : Bool := tag.head? = some 0x21

/-- What an application's own tag says, if it spells a text: what stands behind the exclamation
mark, or the mark if nothing does. -/
def localName? (tag : Option Tag) : Option String :=
  (tag.filter isLocal).bind fun tag =>
    String.fromUTF8? ⟨(if tag.length = 1 then tag else tag.drop 1).toArray⟩

end Tag

/-- How a scalar is written. -/
inductive Style where
  | plain
  | quoted
  | block
  deriving DecidableEq, Repr

/-- A token. -/
inductive Token where
  /-- The version of YAML, before a document. -/
  | version (major minor : Nat)
  /-- A short form for tags, before a document. -/
  | handle (handle : String) (lead : Tag)
  | documentStart
  | documentEnd
  | blockSequence
  | blockMapping
  | blockEnd
  | flowSequence
  | flowSequenceEnd
  | flowMapping
  | flowMappingEnd
  | blockEntry
  | flowEntry
  | key
  | value
  | reference (name : String)
  | anchor (name : String)
  | tag (handle : String) (suffix : Tag)
  | scalar (style : Style) (text : String)
  /-- The end of the text. -/
  | finish
  deriving DecidableEq, Repr

/-- A token and the place where it starts. -/
structure Placed where
  token : Token
  place : Place
  deriving DecidableEq, Repr

end PipelinesOperator.Yaml
