import Std.Time.DateTime.Timestamp
import Tabletop.CommandLine
import Tabletop.Session.Basic
import Tabletop.Value.Json

/-!
# The program

Reads the settings and the command line, then serves standard input: a line `history`, `info` or `health` is that
command, any other line is a formula to roll.  Replies go to standard output, the log to standard error.  Rolls are
remembered as long as the program runs, whichever database the settings name.
-/

namespace Tabletop.Program

def command (line : String) : Command Float :=
  match line with
  | "history" => .listHistory History.defaultLimit
  | "info" => .info
  | "health" => .health
  | formula => .roll formula none

def entryText (e : Entry) : String :=
  e.stamp.text ++ " " ++ e.expression ++ ": " ++ toString e.total

def faultText (f : FieldFault) : String :=
  f.field ++ ": " ++ f.fault.code

def replyText : Reply → String
  | .configured _ _ => "configured"
  | .invalidSettings faults => "\n".intercalate (faults.map faultText)
  | .done => "done"
  | .caller name => name
  | .text s => s
  | .entries entries => "\n".intercalate (entries.map entryText)
  | .refused cause => cause.message
  | .page body => body.json

def lineText : LogLine → String
  | .object fields => (Value.object fields).json
  | .console text => text

def writeLog (log : Log) (records : List Record) : IO Unit := do
  for line in log.lines records do
    IO.eprintln (lineText line)

/-- The variables of the environment that belong to settings. -/
def environment : IO (List (String × String)) := do
  let names := Settings.fieldNames.map fun f => (Settings.variablePrefix ++ f).toUpper
  let values ← names.mapM fun name => do
    return (← IO.getEnv name).map fun value => (name, value)
  return values.filterMap id

def settingsFile : IO (Option String) := do
  try
    return some (← IO.FS.readFile ".env")
  catch _ =>
    return none

def randomSource : IO Congruential := do
  let bytes ← IO.getRandomBytes 8
  return .ofSeed (bytes.toList.foldl (fun n b => 256 * n + b.toNat) 0 : Nat)

def now : IO Moment := do
  let time ← Std.Time.Timestamp.now
  let nanoseconds := time.toNanosecondsSinceUnixEpoch.toInt.toNat
  return .ofUnixTime (nanoseconds / 1000000000) (nanoseconds / 1000 % 1000000)

def reading : IO Float := do
  return Float.ofNat (← IO.monoNanosNow) / 1e9

partial def serve (log : Log) (input : IO.FS.Stream) (session : Session Float Congruential) : IO Unit := do
  let line ← input.getLine
  if line.isEmpty then return
  let session := { session with clock := ← reading, date := .ok (← now) }
  let step := session.run (command line.trimAscii.toString)
  writeLog log step.records
  IO.println (replyText step.reply)
  serve log input step.session

def start (settings : Settings) (argv : List String) : IO UInt32 := do
  match CommandLine.read settings argv with
  | .error .help =>
    IO.println "options: --transport NAME, --host HOST, --port PORT, --log-level LEVEL, --help"
    return 0
  | .error .usage =>
    IO.eprintln "wrong arguments; --help lists the options"
    return 2
  | .ok a =>
    match CommandLine.log settings a with
    | .error fault =>
      IO.eprintln fault.message
      return 2
    | .ok log =>
      writeLog log [CommandLine.startRecord settings a]
      let session := Session.start (← randomSource) (← reading) (← now) .blank
      serve log (← IO.getStdin) (session.withSettings settings)
      return 0

end Tabletop.Program

def main (argv : List String) : IO UInt32 := do
  match Tabletop.Settings.load (← Tabletop.Program.environment) (← Tabletop.Program.settingsFile) with
  | .error faults =>
    IO.eprintln (Tabletop.Program.replyText (.invalidSettings faults))
    return 1
  | .ok settings => Tabletop.Program.start settings argv
