import PipelinesOperator.Startup
import PipelinesOperator.Timestamp.Epoch
import PipelinesOperator.Timestamp.Rfc3339
import Std.Time.DateTime.Timestamp

/-!
# The program

Hands the command line and the surroundings to a run, and prints what it leaves behind.
-/

namespace PipelinesOperator.Main

/-- The variables of the environment. -/
def environment : IO (Table String) := do
  let bytes ← IO.FS.readBinFile "/proc/self/environ"
  let texts := Text.splitOn '\x00' ((String.fromUTF8? bytes).getD "")
  return Table.ofList ((texts.filter (·.contains '=')).map fun text =>
    let name := text.toList.takeWhile (· ≠ '=')
    (String.ofList name, String.ofList (text.toList.drop (name.length + 1))))

/-- The contents of a file, if there is such a file. -/
def contents? (path : String) : IO (Option ByteArray) := do
  try
    return some (← IO.FS.readBinFile path)
  catch _ =>
    return none

/-- The files that a command line can mean, with their contents. -/
def files (directory : String) (settings : Table String) (words : List String) :
    IO (List (String × ByteArray)) := do
  match Command.read (settings.get? CommandLine.configVariable) words with
  | .ok (some (.controller (some path))) =>
    let found ← (Config.Location.candidates directory path).mapM fun candidate => do
      return (← contents? candidate).map (candidate, ·)
    return found.filterMap id
  | _ => return []

/-- The surroundings of a run. -/
def surroundings (words : List String) : IO Surroundings := do
  let directory := (← IO.currentDir).toString
  let settings ← environment
  let found ← files directory settings words
  return ⟨directory, settings, fun path => (found.find? fun file => file.1 = path).map Prod.snd⟩

/-- The time of a record. -/
def now : IO String := do
  let moment := (← Std.Time.Timestamp.now).val
  return match Timestamp.ofEpoch? moment.second.val.toNat moment.nano.val.toNat with
    | some t => String.ofList (t.secondsText ++ Timestamp.fractionText t.clock.nanosecond) ++ "+00:00"
    | none => ""

/-- Runs a command line and prints what the run leaves behind. -/
def run (words : List String) : IO UInt32 := do
  let outcome := (← surroundings words).run words
  for record in outcome.records do
    let members := ("timestamp", Json.str (← now)) :: record.toJson.members
    IO.println (String.ofList (Json.obj members).compact)
  IO.print outcome.output
  IO.eprint outcome.complaint
  return outcome.exitCode.toUInt32

end PipelinesOperator.Main

/-- The program. -/
def main (words : List String) : IO UInt32 := PipelinesOperator.Main.run words
