import Mjpeg.Command.Camera
import Mjpeg.Command.Extract
import Mjpeg.Command.Version
import Mjpeg.Log.Filter

/-!
# The command line

`run` carries out a command line: what is printed, what is told on the error output, how it
ends, and the files as they are then. A command that does not end has no outcome.
-/

namespace Mjpeg.Command

/-- A line of the error output. -/
inductive Diagnostic where
  | line (text : String)
  | event (format : LogFormat) (event : Log.Event)
  deriving Repr, DecidableEq

/-- What a command line comes to. -/
structure Outcome where
  exit : Exit
  stdout : Bytes
  stderr : List Diagnostic
  files : FileTree
  deriving Repr, DecidableEq

/-- The value of a field in a log line. -/
def fieldText : Log.Value → String
  | .number n => toString n
  | .plain s => s
  | .quoted s => Text.quoted s

/-- An event as a log line, without the time. -/
def eventLine (e : Log.Event) : String :=
  e.level.label ++ " " ++ e.message ++
    String.join (e.fields.map fun (name, value) => " " ++ name ++ "=" ++ fieldText value)

/-- The value of a field in a JSON document. -/
def fieldJson : Log.Value → String
  | .number n => toString n
  | .plain s | .quoted s => Text.jsonString s

/-- An event as an object of JSON, logged at the time `clock`. -/
def eventJson (clock : String) (e : Log.Event) : String :=
  "\x7b\"timestamp\":" ++ Text.jsonString clock ++ ",\"level\":" ++ Text.jsonString e.level.label ++
    ",\"fields\":\x7b\"message\":" ++ Text.jsonString e.message ++
    String.join (e.fields.map fun (name, value) =>
      "," ++ Text.jsonString name ++ ":" ++ fieldJson value) ++ "\x7d\x7d"

/-- The outcome of a command that has ended, for the records and events it reports. -/
def outcomeOf (invocation : Invocation) (env : Environment) (report : Report) : Outcome :=
  let (filter, warning) := Log.Filter.choose invocation.logLevel env.logFilter
  let shown := report.events.filter filter.shows
  { exit := match report.error with
      | none => .success
      | some e => e.exit
    stdout := Output.render (invocation.format.getD .json) env.clock report.records report.closed
    stderr := (warning.toList.map .line) ++ shown.map (.event invocation.logFormat) ++
      (report.error.toList.map fun e => .line ("error: " ++ e.message))
    files := report.files }

/-- The outcome of a command that only prints some lines. -/
def printed (env : Environment) (warning : Option String) (lines : List String) : Outcome :=
  { exit := .success
    stdout := Bytes.ofText (String.join (lines.map (· ++ "\n")))
    stderr := warning.toList.map .line
    files := env.files }

/-- What the program says about its use. -/
def usageLines : List String :=
  ["usage: snapshooter [--format FORMAT] [--log-format FORMAT] [--log-level LEVEL] COMMAND",
    "commands: watch URL, snapshot URL -o FILE, extract INPUT --boundary TOKEN, version"]

/-- Carries out a command line. -/
def run (build : Version.Build) (arguments : List String) (env : Environment) : Option Outcome :=
  match parse arguments with
  | .error .usage =>
    some
      { exit := .usageSyntax, stdout := [], stderr := usageLines.map .line, files := env.files }
  | .error .versionWanted => some (printed env none [Version.line])
  | .error .helpWanted => some (printed env none usageLines)
  | .ok invocation =>
    match invocation.request with
    | .extract arguments => some (outcomeOf invocation env (Extract.report arguments env))
    | .watch arguments => (Watch.report arguments env).map (outcomeOf invocation env)
    | .snapshot arguments => (Snapshot.report arguments env).map (outcomeOf invocation env)
    | .version extended =>
      let warning := (Log.Filter.choose invocation.logLevel env.logFilter).2
      some (printed env warning (if extended then Version.extendedLines build else [Version.line]))

end Mjpeg.Command
