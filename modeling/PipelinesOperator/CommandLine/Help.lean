import PipelinesOperator.CommandLine.Basic
import PipelinesOperator.Terminal

/-!
# Help

A page of help says what the program or a command is for, how it is called and what it
takes.  The names in a list are padded to one width, so that the notes behind them stand in
one column.  A page is written for a terminal: titles and what has to be typed as it stands
have a style.
-/

namespace PipelinesOperator.CommandLine

/-- The name of the program. -/
def programName : String := "data-science-pipelines-operator"

/-- The version of the program. -/
def programVersion : String := "0.1.0"

/-- The variable of the environment that names the configuration file. -/
def configVariable : String := "DSPO_CONFIG"

/-- One line of a list: a name, the name in its style, and a note on it. -/
structure Entry where
  name : String
  styled : String
  note : String
  deriving DecidableEq, Repr

/-- A list of names and notes.  The further lines of a note stand below its first. -/
def columns (entries : List Entry) : String :=
  let width := entries.foldl (fun width e => max width e.name.length) 0
  let spaces (n : Nat) := String.ofList (List.replicate n ' ')
  String.join (entries.map fun e =>
    "  " ++ e.styled ++ spaces (width - e.name.length) ++ "  " ++
      Text.join ("\n" ++ spaces (width + 4)) (Text.splitOn '\n' e.note) ++ "\n")

namespace Topic

/-- What the program or a command is for. -/
def purpose : Topic → String
  | .program => "Operator for managing Data Science Pipelines applications"
  | .definitions => "Generate Custom Resource Definitions (CRDs) for the operator"
  | .controller => "Run the controller"
  | .help => "Print this message or the help of the given subcommand(s)"

/-- How the program or a command is called. -/
def usage : Topic → String
  | .program => Terminal.strong programName ++ " [COMMAND]"
  | .definitions => Terminal.strong (programName ++ " crds")
  | .controller => Terminal.strong (programName ++ " controller") ++ " [OPTIONS]"
  | .help => Terminal.strong (programName ++ " help") ++ " [COMMAND]..."

end Topic

/-- What an option does.  The configuration file that the environment names is shown. -/
def Flag.purpose (config : Option String) : Flag → String
  | .config =>
    "JSON or YAML configuration file, layered under DSPO__ environment variables [env: " ++
      configVariable ++ "=" ++ config.getD "" ++ "]"
  | .help => "Print help"
  | .version => "Print version"

/-- The line of an option in a list. -/
def Flag.entry (config : Option String) (flag : Flag) : Entry :=
  let short := "-" ++ String.singleton flag.letter
  ⟨short ++ ", " ++ flag.text,
    Terminal.strong short ++ ", " ++ Terminal.strong ("--" ++ flag.name) ++ flag.argument,
    flag.purpose config⟩

/-- The lists of a page, with their titles. -/
def Topic.lists (config : Option String) (topic : Topic) : List (String × List Entry) :=
  let commands := match topic with
    | .program => [("Commands", named.map fun n => ⟨n.1, Terminal.strong n.1, n.2.purpose⟩)]
    | _ => []
  let arguments := match topic with
    | .help =>
      [("Arguments", [⟨"[COMMAND]...", "[COMMAND]...", "Print help for the subcommand(s)"⟩])]
    | _ => []
  let options := match topic.flags with
    | [] => []
    | flags => [("Options", flags.map (Flag.entry config))]
  commands ++ arguments ++ options

/-- The page of help on a topic. -/
def Topic.page (config : Option String) (topic : Topic) : String :=
  topic.purpose ++ "\n\n" ++ Terminal.title "Usage:" ++ " " ++ topic.usage ++ "\n" ++
    String.join ((topic.lists config).map fun list =>
      "\n" ++ Terminal.title (list.1 ++ ":") ++ "\n" ++ columns list.2)

/-- What a command line prints that is not carried out. -/
def Stop.output (config : Option String) : Stop → String
  | .help topic => topic.page config
  | .version => programName ++ " " ++ programVersion ++ "\n"
  | _ => ""

end PipelinesOperator.CommandLine
