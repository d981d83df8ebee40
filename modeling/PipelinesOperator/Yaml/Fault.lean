import PipelinesOperator.Document.Label
import PipelinesOperator.Yaml.Break

/-!
# Why a text is no mapping

A text may break, be longer than one document, refer to what it does not name, or hold what
the mapping that is looked for cannot hold.  References that would make a small text stand
for a huge document are stopped as well.
-/

namespace PipelinesOperator.Yaml

/-- What does not fit where it stands. -/
inductive Misfit where
  /-- The root is no mapping. -/
  | notMapping (found : Found)
  /-- A key is no text. -/
  | notText (found : Found)
  /-- What should be the number of a layer is none; a tagged value is found as nothing. -/
  | notNumber (found : Option Found)
  /-- A scalar is not what its tag says. -/
  | misspelled (text expected : String)
  deriving DecidableEq, Repr

/-- What was found, in the words used for YAML. -/
def foundText : Found → String
  | .null => "unit value"
  | .num (.double d) => "floating point `" ++ d.pointed ++ "`"
  | .num (.wide n) => (Found.num (.wide n)).inConfiguration
  | found => found.inDocument

/-- The wording of a misfit. -/
def Misfit.text : Misfit → String
  | .notMapping found => "invalid type: " ++ foundText found ++ ", expected a map"
  | .notText found => "invalid type: " ++ foundText found ++ ", expected a string"
  | .notNumber found =>
    "invalid type: " ++ (found.map foundText).getD "enum" ++ ", expected " ++
      Labelled.numberType
  | .misspelled text expected =>
    "invalid value: string " ++ PipelinesOperator.Text.quoted text ++ ", expected " ++ expected

/-- A way from the root of a document, as it is written; the root itself has none. -/
abbrev Way := Option String

namespace Way

/-- The way to an item of a sequence. -/
def item (w : Way) (index : Nat) : Way := some (w.getD "." ++ "[" ++ toString index ++ "]")

/-- The way to the value of a key, or of one that is no scalar. -/
def member (w : Way) (key : Option String) : Way :=
  some ((w.map (· ++ ".")).getD "" ++ key.getD "?")

end Way

/-- Why a text is no mapping. -/
inductive Fault where
  /-- A character must not stand in a text.  So many bytes go before it. -/
  | control (offset : Nat)
  | broken (b : Break)
  | unknownAnchor (place : Place)
  /-- Too many collections stand one inside the other. -/
  | tooDeep (place : Place)
  /-- Too many references are followed. -/
  | tooOften
  /-- The text ends where a value should be. -/
  | ended
  /-- There is something behind the document. -/
  | several
  | unfit (way : Way) (place : Place) (misfit : Misfit)
  deriving DecidableEq, Repr

/-- The wording of a fault. -/
def Fault.message : Fault → String
  | .control offset =>
    "control characters are not allowed" ++
      (if offset = 0 then "" else " at position " ++ toString offset)
  | .broken b => b.message
  | .unknownAnchor place => "unknown anchor" ++ place.text
  | .tooDeep place => "recursion limit exceeded" ++ place.text
  | .tooOften => "repetition limit exceeded"
  | .ended => "EOF while parsing a value"
  | .several => "deserializing from YAML containing more than one document is not supported"
  | .unfit way place misfit =>
    (way.map (· ++ ": ")).getD "" ++ misfit.text ++ place.text

end PipelinesOperator.Yaml
