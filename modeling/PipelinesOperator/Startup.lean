import PipelinesOperator.Application.Definition
import PipelinesOperator.CommandLine.Help
import PipelinesOperator.Config.Draft
import PipelinesOperator.Config.Registry
import PipelinesOperator.Log.Filter
import PipelinesOperator.Terminal

/-!
# Starting the program

A run of the program up to the point where it watches a cluster.  It reads the command line,
puts the configuration together, warns of images that nobody has configured, and looks for
a cluster.  What it finds on the way is a function of its surroundings: the environment, the
working directory and the files.

There is no cluster in these surroundings, so a run of the controller ends when it has
looked for one.

## Main definitions

* `Surroundings`: what a run can see
* `Outcome`: what a run leaves behind
* `Surroundings.run`: the run of a command line
-/

namespace PipelinesOperator

/-- What a run of the program can see. -/
structure Surroundings where
  /-- The working directory. -/
  directory : String
  /-- The variables of the environment. -/
  environment : Table String
  /-- The contents of the file with some path from the root. -/
  contents : String → Option ByteArray

/-- What a run of the program leaves behind. -/
structure Outcome where
  exitCode : Nat
  records : List Log.Record
  output : String
  complaint : String

namespace Surroundings

open CommandLine Log

/-- The value of a variable of the environment. -/
def value? (s : Surroundings) (name : String) : Option String := s.environment.get? name

/-- Whether what is printed may have colors although no terminal shows it: the environment
asks for them and does not forbid them. -/
def isColored (s : Surroundings) : Bool :=
  (s.value? "NO_COLOR").all (· = "") && (s.value? "CLICOLOR_FORCE").any (· ≠ "0")

/-- The configuration file that the environment names. -/
def config? (s : Surroundings) : Option String := s.value? configVariable

/-- The draft with a configuration file over it, by the name that messages give it. -/
def layered (s : Surroundings) (d : Config.Draft) (path : String) : Config.Draft :=
  let found := (Config.Location.candidates s.directory path).findSome? fun candidate =>
    (s.contents candidate).map (candidate, ·)
  match found with
  | some (candidate, contents) =>
    d.withFile (Config.Location.shown s.directory candidate) (some contents)
  | none => d

/-- The configuration of a run of the controller. -/
def configure (s : Surroundings) (path : Option String) : Except (List Config.Error) Config :=
  let standard := Config.Draft.standard
  let draft := match path with
    | some path => s.layered standard path
    | none => standard
  (draft.withEnvironment s.environment).build

/-- The file that tells users of a cluster how to reach it. -/
def clusterFile (s : Surroundings) : String :=
  let home := (s.value? "HOME").getD ""
  home ++ (if home.toList.getLast? = some '/' then "" else "/") ++ ".kube/config"

/-- Why the file that tells how to reach the cluster says nothing. -/
def noClusterFile (s : Surroundings) : String :=
  "failed to read kubeconfig from '" ++ Text.quoted s.clusterFile ++
    "': No such file or directory (os error 2)"

/-- Why no cluster is found. -/
def noCluster (s : Surroundings) : String :=
  "kubernetes api error: Failed to infer configuration: failed to infer config: in-cluster: " ++
    "(failed to read an incluster environment variable: environment variable not found), " ++
    "kubeconfig: (" ++ s.noClusterFile ++ ")"

/-- The record of the cluster's client that it has no file to go by. -/
def withoutClusterFile (s : Surroundings) : Record :=
  ⟨.trace, "kube_client::config",
    [("message", "no local config found, falling back to local in-cluster config"),
      ("error", s.noClusterFile)]⟩

/-- What is recorded in a run of the controller. -/
def controllerRecords (s : Surroundings) (path : Option String) : List Record :=
  let started := Record.ofEvent (.starting programVersion)
  match s.configure path with
  | .error errors =>
    [started, .ofEvent (.failed (Text.join "\n" (errors.map Config.Error.message)))]
  | .ok config =>
    [started] ++ (Registry.ofConfig config).missing.map (fun p => .ofEvent (.missingDefault p)) ++
      [s.withoutClusterFile, .ofEvent (.failed s.noCluster)]

/-- The filter of the log, if the environment lets the log begin. -/
def filter? (s : Surroundings) : Option Filter := Filter.ofVariable? (s.value? "LOG_LEVEL")

/-- The exit code of a run that breaks off. -/
def brokenOff : Nat := 101

/-- A page of help as it is printed. -/
def shown (s : Surroundings) (page : String) : String :=
  if s.isColored then page else Terminal.plain page

/-- The run of a command line, without the name of the program. -/
def run (s : Surroundings) (words : List String) : Outcome :=
  match Command.read s.config? words with
  | .error stop => ⟨stop.exitCode, [], s.shown (stop.output s.config?), s.shown stop.complaint⟩
  | .ok command =>
    match s.filter?, command with
    -- The log is set up before any command, so a torn filter ends every one of them.
    | none, _ => ⟨brokenOff, [], "", "the filter of the log is cut within a character\n"⟩
    | some _, none => ⟨1, [], s.shown (Topic.program.page s.config?), ""⟩
    | some _, some .definitions => ⟨0, [], Manifest.definitionsText, ""⟩
    | some filter, some (.controller path) =>
      ⟨1, (s.controllerRecords path).filter filter.keeps, "", ""⟩

end Surroundings

end PipelinesOperator
