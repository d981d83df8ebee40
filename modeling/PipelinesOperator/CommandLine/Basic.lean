/-!
# The command line

The program takes one command and what the command needs.  The words of a command line are
read from left to right, and the first word that cannot be taken ends the reading.

A value that stands in a word of its own is settled only when the next option comes or the
line ends.  So of two faults the one in the later word can be the one that is reported: a
stray word behind a repeated option is.

## Main definitions

* `Command`: what the program can be asked to do
* `Stop`: why a command line asks for nothing of the kind
* `Command.read`: the command of a command line
-/

namespace PipelinesOperator

/-- What the program is asked to do. -/
inductive Command where
  /-- To print the definitions of the resources. -/
  | definitions
  /-- To run the controller, with a configuration file or without. -/
  | controller (config : Option String)
  deriving DecidableEq, Repr

namespace CommandLine

/-- What help can be given on: the program as a whole, or one of its commands. -/
inductive Topic where
  | program
  | definitions
  | controller
  | help
  deriving DecidableEq, Repr

/-- An option. -/
inductive Flag where
  | config
  | help
  | version
  deriving DecidableEq, Repr

namespace Flag

/-- The name of an option. -/
def name : Flag → String
  | .config => "config"
  | .help => "help"
  | .version => "version"

/-- The letter of an option. -/
def letter : Flag → Char
  | .config => 'c'
  | .help => 'h'
  | .version => 'V'

/-- The value that stands behind an option. -/
def argument : Flag → String
  | .config => " <CONFIG>"
  | .help => ""
  | .version => ""

/-- How an option is written. -/
def text (flag : Flag) : String := "--" ++ flag.name ++ flag.argument

end Flag

namespace Topic

/-- The commands with their names, in the order in which they are listed. -/
def named : List (String × Topic) :=
  [("crds", .definitions), ("controller", .controller), ("help", .help)]

/-- The command of a name. -/
def ofName? (name : String) : Option Topic :=
  (named.find? fun n => n.1 == name).map Prod.snd

/-- The options of the program or of a command. -/
def flags : Topic → List Flag
  | .program => [.help, .version]
  | .definitions => [.help]
  | .controller => [.config, .help]
  | .help => []

end Topic

/-- Why a command line is not carried out. -/
inductive Stop where
  /-- It asks for help. -/
  | help (topic : Topic)
  /-- It asks for the version. -/
  | version
  /-- A word can be neither an option nor a value. -/
  | unknownArgument (word : String)
  /-- A word stands where a command has to, and is none. -/
  | unknownCommand (word : String)
  /-- An option has no value. -/
  | missingValue (flag : Flag)
  /-- An option is given twice. -/
  | repeated (flag : Flag)
  /-- An option that takes no value has one. -/
  | needlessValue (flag : Flag) (value : String)
  deriving DecidableEq, Repr

namespace Stop

/-- The exit code of a command line that is not carried out: asking for help or the version
is no failure. -/
def exitCode : Stop → Nat
  | .help _ => 0
  | .version => 0
  | _ => 2

/-- What is wrong with a command line, if anything is. -/
def complaint : Stop → String
  | .help _ => ""
  | .version => ""
  | .unknownArgument word => "error: unexpected argument '" ++ word ++ "' found\n"
  | .unknownCommand word => "error: unrecognized subcommand '" ++ word ++ "'\n"
  | .missingValue flag =>
    "error: a value is required for '" ++ flag.text ++ "' but none was supplied\n"
  | .repeated flag =>
    "error: the argument '" ++ flag.text ++ "' cannot be used multiple times\n"
  | .needlessValue flag value =>
    "error: unexpected value '" ++ value ++ "' for '" ++ flag.text ++
      "' found; no more were expected\n"

end Stop

/-- A word of a command line by its looks. -/
inductive Word where
  /-- The two dashes behind which no word is an option. -/
  | escape
  /-- Two dashes and a name, with a value behind an equals sign or without. -/
  | long (name : String) (value : Option String)
  /-- A dash, a letter and what follows it. -/
  | short (letter : Char) (rest : List Char)
  /-- A word that is no option. -/
  | plain
  deriving DecidableEq, Repr

/-- The looks of a word. -/
def Word.ofText (word : String) : Word :=
  match word.toList with
  | ['-', '-'] => .escape
  | '-' :: '-' :: rest =>
    let name := rest.takeWhile (· ≠ '=')
    .long (String.ofList name)
      (if name.length < rest.length then some (String.ofList (rest.drop (name.length + 1)))
        else none)
  | '-' :: letter :: rest => .short letter rest
  | _ => .plain

/-- What the words so far say about the configuration file: the value that is settled, and
what a last option of it is about to add. -/
inductive Given where
  /-- Nothing is open. -/
  | settled (value : Option String)
  /-- The option was the last word. -/
  | awaiting (value : Option String)
  /-- The option and its value were the last two words. -/
  | pending (value : Option String) (next : String)
  deriving DecidableEq, Repr

namespace Given

/-- One more value, which has to be the only one. -/
def add (value : Option String) (next : String) : Except Stop (Option String) :=
  if value.isSome then .error (.repeated .config) else .ok (some next)

/-- The value once nothing is open. -/
def settle : Given → Except Stop (Option String)
  | .settled value => .ok value
  | .awaiting _ => .error (.missingValue .config)
  | .pending value next => add value next

/-- The option of the configuration file, with a value in the same word or without. -/
def option (g : Given) (attached : Option String) : Except Stop Given := do
  let value ← g.settle
  match attached with
  | none => .ok (.awaiting value)
  | some next => .ok (.settled (← add value next))

/-- A word that is no option: the value of the option before it, or stray. -/
def plain (g : Given) (word : String) : Option Given :=
  match g with
  | .awaiting value => some (.pending value word)
  | _ => none

/-- An option that ends the reading. -/
def stop (g : Given) (s : Stop) : Except Stop Given := do
  let _ ← g.settle
  .error s

end Given

namespace Topic

/-- What is said of a word that nothing takes.  Where a command has to stand the word is
taken for one, unless it is one that came behind the two dashes. -/
def stray (topic : Topic) (escaped : Bool) (word : String) : Stop :=
  match topic with
  | .program =>
    if escaped ∧ (ofName? word).isSome then .unknownArgument word else .unknownCommand word
  | _ => .unknownArgument word

/-- An option, with a value in the same word or without. -/
def take (topic : Topic) (g : Given) (flag : Flag) (attached : Option String) :
    Except Stop Given :=
  match flag with
  | .config => g.option attached
  | .help => g.stop (.help topic)
  | .version => g.stop .version

/-- Reads the words behind a command, or those of a line without one. -/
def read (topic : Topic) (g : Given) : List String → Except Stop (Option String)
  | [] => g.settle
  | word :: words =>
    match Word.ofText word with
    | .escape =>
      match words with
      | [] => g.settle
      -- Behind the escape nothing is a command, so any word is one too many.
      | next :: _ => .error (topic.stray true next)
    | .long name attached =>
      match topic.flags.find? (fun flag => flag.name = name), attached with
      | none, _ => .error (.unknownArgument word)
      | some .help, some value => .error (.needlessValue .help value)
      | some .version, some value => .error (.needlessValue .version value)
      | some flag, attached =>
        match topic.take g flag attached with
        | .ok g => read topic g words
        | .error s => .error s
    | .short letter rest =>
      match topic.flags.find? (fun flag => flag.letter = letter) with
      | none => .error (.unknownArgument word)
      | some flag =>
        -- What follows the letter is its value, with an equals sign or without.
        let attached := match rest with
          | [] => none
          | '=' :: value => some (String.ofList value)
          | value => some (String.ofList value)
        match topic.take g flag attached with
        | .ok g => read topic g words
        | .error s => .error s
    | .plain =>
      match g.plain word with
      | some g => read topic g words
      | none => .error (topic.stray false word)

/-- The topic that words behind the help command lead to.  No command has commands of its
own. -/
def ofWords : List String → Except Stop Topic
  | [] => .ok .program
  | word :: words =>
    match ofName? word, words with
    | none, _ => .error (.unknownCommand word)
    | some topic, [] => .ok topic
    | some _, next :: _ => .error (.unknownCommand next)

end Topic

end CommandLine

open CommandLine

/-- The command of a command line, if it has one.  The words are those behind the name of
the program; the configuration file of the environment is used if the words name none. -/
def Command.read (config : Option String) (words : List String) :
    Except Stop (Option Command) := do
  let first := words.head?.bind Topic.ofName?
  match first with
  | none =>
    let _ ← Topic.program.read (.settled none) words
    .ok none
  | some .help => .error (.help (← Topic.ofWords words.tail))
  | some .program => .ok none
  | some .definitions =>
    let _ ← Topic.definitions.read (.settled none) words.tail
    .ok (some .definitions)
  | some .controller =>
    let value ← Topic.controller.read (.settled none) words.tail
    .ok (some (.controller (value.or config)))

end PipelinesOperator
