import PipelinesOperator.Config.Location
import PipelinesOperator.Config.Tree
import PipelinesOperator.JsonText.Read
import PipelinesOperator.Yaml.Value

/-!
# Files as layers

The extension of a file says in which format it is.  A file with another extension is no
layer, and neither is one that does not exist.  The bytes of a file have to spell a text, and
its root has to be a table.
-/

namespace PipelinesOperator.Config

/-- The format of files with an extension. -/
def Format.ofExtension? (extension : String) : Option Format :=
  if extension = "json" then some .json
  else if extension = "yaml" ∨ extension = "yml" then some .yaml
  else none

/-- The name of a format. -/
def Format.text : Format → String
  | .json => "JSON"
  | .yaml => "YAML"

/-- The extension of a file: what stands behind the last dot of its name, unless the name
starts there. -/
def extension (path : String) : String :=
  let name := ((Location.steps path).getLast?).getD ""
  if name = ".." then ""
  else match (Text.splitOn '.' name).reverse with
    | last :: stem :: rest => if stem = "" ∧ rest.isEmpty then "" else last
    | _ => ""

/-- The format of a file, if it is that of a layer. -/
def Format.ofPath? (path : String) : Option Format := ofExtension? (extension path)

/-- What a text says, or what is wrong with it. -/
def Format.read (format : Format) (text : List Char) : Except String Labelled :=
  match format with
  | .json => (JsonText.readBy Labelled.ofRoot text).mapError (JsonText.describe text)
  | .yaml => (Yaml.read text).mapError Yaml.Fault.message

/-- The layer of a file with some contents. -/
def Format.layer (format : Format) (path : String) (contents : ByteArray) :
    Except String Tree := do
  match String.fromUTF8? contents with
  | none => .error "stream did not contain valid UTF-8"
  | some text =>
    let read ← format.read text.toList
    .ok (Tree.ofDoc (Source.file path format).ofLabel read)

end PipelinesOperator.Config
