import PipelinesOperator.Config.Environment
import PipelinesOperator.Config.File

/-!
# Drafts of the configuration

A draft is the configuration while its layers are put together.  A layer that cannot be made
spoils the draft: it stays unreadable, whatever comes later.  A draft that is not spoilt is
read as a configuration, and the first value that is at fault is reported.

## Main definitions

* `Draft.withFile`, `Draft.withEnvironment`, `Draft.withOverride`: one more layer
* `Draft.build`: the configuration of a draft
-/

namespace PipelinesOperator.Config

/-- What is wrong with a draft. -/
inductive Error where
  /-- A file does not read as a table. -/
  | unreadable (source : Source) (message : String)
  /-- A single value is given without a key. -/
  | keyless (found : Found)
  /-- A value is not what it should be. -/
  | value (fault : Fault Source Empty)

namespace Source

/-- Where a value comes from, in the words of a message. -/
def text : Source → String
  | .standard => "the defaults"
  | .file path format => path ++ " " ++ format.text ++ " file"
  | .environment => "`" ++ Environment.lead ++ "` environment variable(s)"
  | .override => "an override"
  | .nowhere => "nowhere"

/-- The path of a value, as its layer writes it. -/
def pathText (path : List String) : Source → String
  | .environment => Text.upperAscii (Text.join "." path)
  | _ => Text.join "." ("default" :: path)

end Source

namespace Error

/-- The wording of a problem with a value. -/
def problemText : Problem Empty → String
  | .wrongType found expected =>
    "invalid type: found " ++ found.inConfiguration ++ ", expected " ++ expected
  | .wrongValue found expected =>
    "invalid value " ++ found.inConfiguration ++ ", expected " ++ expected
  | problem => problem.message fun e => nomatch e

/-- What is wrong, without where. -/
def text : Error → String
  | .unreadable _ message => message
  | .keyless found => problemText (.wrongType found "map")
  | .value fault => problemText fault.problem

/-- The keys that lead to what is wrong. -/
def path : Error → List String
  | .value fault => fault.path
  | _ => []

/-- The wording of an error.  Of a value from a layer that does not exist nothing more can be
said. -/
def message (e : Error) : String :=
  match e with
  | .unreadable source _ => e.text ++ " in " ++ source.text
  | .keyless _ => e.text ++ " in " ++ Source.override.text
  | .value fault =>
    if fault.mark = .nowhere then e.text
    else
      let place := if fault.path.isEmpty then ""
        else " for key " ++ Text.quoted (fault.mark.pathText fault.path)
      e.text ++ place ++ " in " ++ fault.mark.text

end Error

/-- A configuration in the making: its layers merged, or what spoilt it first and, if there
was more, last. -/
inductive Draft where
  | merged (tree : Tree)
  | spoilt (first : Error) (last : Option Error)

namespace Draft

/-- The draft with nothing but what is built in. -/
def standard : Draft :=
  .merged (Tree.ofDoc (fun _ => .standard) (Doc.ofJson (Config.shape.write Config.default)))

/-- The draft with one more layer, or spoilt by one that cannot be made. -/
def add (d : Draft) (layer : Except Error Tree) : Draft :=
  match d, layer with
  | .merged tree, .ok layer => .merged (tree.merge layer)
  | .merged _, .error e => .spoilt e none
  | .spoilt first last, .ok _ => .spoilt first last
  | .spoilt first _, .error e => .spoilt first (some e)

/-- The draft with a file over it.  A file that does not exist has no contents. -/
def withFile (d : Draft) (path : String) (contents : Option ByteArray) : Draft :=
  match Format.ofPath? path, contents with
  | some format, some contents =>
    d.add ((format.layer path contents).mapError (.unreadable (.file path format)))
  | _, _ => d

/-- The draft with the environment over it. -/
def withEnvironment (d : Draft) (settings : Table String) : Draft :=
  d.add (.ok (Environment.layer settings))

/-- The draft with a single value over it, if one is given. -/
def withOverride (d : Draft) (key : String) (value : Option String) : Draft :=
  match value with
  | none => d
  | some value =>
    match Doc.nest .override (.str .override value) (Text.splitOn '.' key) with
    | .obj source members broken => d.add (.ok (.obj source members broken))
    -- An empty path leaves the value alone, and a layer has to be a table.
    | _ => d.add (.error (.keyless (.text value)))

/-- The configuration of a draft, or what is wrong with it. -/
def build : Draft → Except (List Error) Config
  | .merged tree => (Config.shape.read manner tree).mapError fun f => [.value f]
  | .spoilt first last => .error (first :: last.toList)

end Draft

end PipelinesOperator.Config
