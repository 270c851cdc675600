import Mjpeg.Duration
import Mjpeg.Log
import Mjpeg.Output
import Mjpeg.Stream.Config

/-!
# Command lines

A command line names one of four commands, with its options and operands; three options that
concern all commands may stand before or behind the command's name. An option is written
`--name value` or `--name=value`, and takes no value that looks like an option unless it is
joined to it. Every option may be given once in each of the two places, and behind the name
counts more.

A command line is read from left to right, and the first thing in it that makes no sense, or that
asks for help or for the version, decides. The value behind an option is looked at when the next
option or operand has been found; behind the last option before the command's name it is looked
at when everything else has been read.
-/

namespace Mjpeg.Command

/-- How log events are written. -/
inductive LogFormat where
  | text
  | json
  deriving Repr, DecidableEq, Inhabited

/-- How patiently a stream is kept up, as the user wrote it. -/
structure StreamArguments where
  retryDelay : String
  idleTimeout : String
  deriving Repr, DecidableEq, Inhabited

/-- The settings that some arguments stand for. The pause is read first. -/
def StreamArguments.config (a : StreamArguments) :
    Except Duration.ParseError Stream.Config := do
  let retryDelay ← Duration.parse a.retryDelay
  let idleTimeout ← Duration.parse a.idleTimeout
  return { retryDelay, idleTimeout }

/-- What `watch` was asked for. -/
structure WatchArguments where
  url : String
  count : Option Nat
  stream : StreamArguments
  deriving Repr, DecidableEq, Inhabited

/-- What `snapshot` was asked for. -/
structure SnapshotArguments where
  url : String
  output : String
  timeout : String
  stream : StreamArguments
  deriving Repr, DecidableEq, Inhabited

/-- What `extract` was asked for. -/
structure ExtractArguments where
  /-- A file, or a dash for the standard input. -/
  input : String
  boundary : String
  outDir : Option String
  count : Option Nat
  deriving Repr, DecidableEq, Inhabited

/-- The commands. -/
inductive Request where
  | watch (arguments : WatchArguments)
  | snapshot (arguments : SnapshotArguments)
  | extract (arguments : ExtractArguments)
  | version (extended : Bool)
  deriving Repr, DecidableEq, Inhabited

/-- A command line that makes sense. -/
structure Invocation where
  format : Option OutputFormat
  logFormat : LogFormat
  logLevel : Log.Level
  request : Request
  deriving Repr, DecidableEq, Inhabited

/-- Why a command line asks for no command. -/
inductive Refusal where
  /-- It makes no sense. -/
  | usage
  /-- It asks for the version, or for help. -/
  | versionWanted
  | helpWanted
  deriving Repr, DecidableEq

/-! ### Values -/

/-- The format of that name. -/
def outputFormat? : String → Option OutputFormat
  | "json" => some .json
  | "table" => some .table
  | "pretty" => some .pretty
  | "raw" => some .raw
  | "mjpeg" => some .mjpeg
  | _ => none

/-- The log format of that name. -/
def logFormat? : String → Option LogFormat
  | "text" => some .text
  | "json" => some .json
  | _ => none

/-- The level of that name. -/
def logLevel? : String → Option Log.Level
  | "error" => some .error
  | "warn" => some .warn
  | "info" => some .info
  | "debug" => some .debug
  | "trace" => some .trace
  | _ => none

/-- A path has at least one character. -/
def path? (s : String) : Option String := if s.isEmpty then none else some s

/-- A number of frames, which has 64 bits. -/
def count? (s : String) : Option Nat := parseNat64? s.toList

/-- An option may have that value. -/
def accepts (name value : String) : Bool :=
  match name with
  | "--format" => (outputFormat? value).isSome
  | "--log-format" => (logFormat? value).isSome
  | "--log-level" => (logLevel? value).isSome
  | "--count" => (count? value).isSome
  | "--output" | "--out-dir" => (path? value).isSome
  | _ => true

/-! ### Options and operands -/

/-- Whether an option takes a value. -/
inductive OptionKind where
  | value
  | flag
  /-- It ends the reading of the command line. -/
  | ends (refusal : Refusal)
  deriving Repr, DecidableEq

/-- Options with their values, and operands, in order. -/
structure Words where
  options : List (String × String)
  operands : List String
  /-- The last option with its value, while that has not been looked at. -/
  pending : Option (String × String)
  deriving Repr, DecidableEq

namespace Words

/-- Nothing yet. -/
def empty : Words := ⟨[], [], none⟩

/-- The words once the value of the last option has been looked at. An option must not be given
twice. -/
def settle (ws : Words) : Except Refusal Words :=
  match ws.pending with
  | none => .ok ws
  | some (name, value) =>
    if ws.options.any (·.1 == name) || !accepts name value then .error .usage
    else .ok { ws with options := ws.options ++ [(name, value)], pending := none }

/-- Adds an option with a value that is looked at at once. -/
def add (ws : Words) (name value : String) : Except Refusal Words := do
  let ws ← ws.settle
  settle { ws with pending := some (name, value) }

/-- Adds operands, of which there may be so many. -/
def addOperands (ws : Words) (limit : Nat) (operands : List String) : Except Refusal Words := do
  let ws ← ws.settle
  if ws.operands.length + operands.length > limit then throw .usage
  return { ws with operands := ws.operands ++ operands }

end Words

/-- An argument that is an option rather than an operand or a value. A dash alone is none. -/
def looksLikeOption (word : String) : Bool := word.startsWith "-" && word != "-"

/-- The name of an option and the value joined to it. A name of one letter follows one dash,
and its value follows at once or behind an equal sign. -/
def splitOption (word : String) : String × Option String :=
  match word.toList with
  | '-' :: '-' :: cs =>
    match Text.splitOnce '=' cs with
    | none => (word, none)
    | some (name, value) => (String.ofList ('-' :: '-' :: name), some (String.ofList value))
  | '-' :: c :: '=' :: cs => (String.ofList ['-', c], some (String.ofList cs))
  | '-' :: c :: d :: cs => (String.ofList ['-', c], some (String.ofList (d :: cs)))
  | _ => (word, none)

/-- Where the options of a place end. -/
inductive Extent where
  /-- At the first operand, which is the name of a command. -/
  | untilOperand
  /-- At the end of the command line, which has at most so many operands. -/
  | untilEnd (operands : Nat)
  deriving Repr, DecidableEq

/-- The options and operands at the start of a command line, and what follows. -/
def readWords (kind? : String → Option (String × OptionKind)) (extent : Extent) :
    Words → List String → Except Refusal (Words × List String)
  | ws, [] => do return (← ws.settle, [])
  | ws, word :: rest =>
    if word == "--" then
      match extent with
      | .untilOperand => .error .usage
      | .untilEnd limit => do return (← ws.addOperands limit rest, [])
    else if looksLikeOption word then
      let (name, joined) := splitOption word
      match kind? name, joined, rest with
      | none, _, _ => .error .usage
      | some (_, .ends refusal), joined, _ => do
        let _ ← ws.settle
        -- the letters behind the first are not looked at any more
        throw (if joined.isSome && word.startsWith "--" then .usage else refusal)
      | some (name, .flag), none, rest => do readWords kind? extent (← ws.add name "") rest
      | some (name, .value), some value, rest => do
        readWords kind? extent (← ws.add name value) rest
      | some (name, .value), none, value :: rest => do
        if looksLikeOption value then throw .usage
        let ws ← ws.settle
        readWords kind? extent { ws with pending := some (name, value) } rest
      | some _, _, _ => .error .usage
    else match extent with
      | .untilOperand => .ok (ws, word :: rest)
      | .untilEnd limit => do readWords kind? extent (← ws.addOperands limit [word]) rest

/-- The value of an option. -/
def Words.option? (ws : Words) (name : String) : Option String :=
  (ws.options.find? (·.1 == name)).map (·.2)

/-- The options of every command. -/
def commonOption? : String → Option (String × OptionKind)
  | "--format" => some ("--format", .value)
  | "--log-format" => some ("--log-format", .value)
  | "--log-level" => some ("--log-level", .value)
  | "-h" | "--help" => some ("--help", .ends .helpWanted)
  | _ => none

/-- The options before the name of a command. -/
def leadingOption? : String → Option (String × OptionKind)
  | "-V" | "--version" => some ("--version", .ends .versionWanted)
  | name => commonOption? name

/-- The options behind the name of a command. -/
def commandOption? (command name : String) : Option (String × OptionKind) :=
  match command, name with
  | "watch", "--count" | "extract", "--count" => some ("--count", .value)
  | "watch", "--retry-delay" | "snapshot", "--retry-delay" => some ("--retry-delay", .value)
  | "watch", "--idle-timeout" | "snapshot", "--idle-timeout" => some ("--idle-timeout", .value)
  | "snapshot", "-o" | "snapshot", "--output" => some ("--output", .value)
  | "snapshot", "--timeout" => some ("--timeout", .value)
  | "extract", "--boundary" => some ("--boundary", .value)
  | "extract", "--out-dir" => some ("--out-dir", .value)
  | "version", "--extended" => some ("--extended", .flag)
  | _, name => commonOption? name

/-! ### Commands -/

/-- A value that must be given. -/
def required : Option α → Except Refusal α
  | none => .error .usage
  | some a => .ok a

/-- The one operand of a command. -/
def oneOperand (ws : Words) : Except Refusal String :=
  match ws.operands with
  | [operand] => .ok operand
  | _ => .error .usage

/-- How many operands a command has; none when there is no such command. -/
def operandCount? : String → Option Nat
  | "watch" | "snapshot" | "extract" => some 1
  | "version" => some 0
  | _ => none

/-- The arguments that concern a stream. -/
def streamArguments (ws : Words) : StreamArguments :=
  ⟨(ws.option? "--retry-delay").getD "5s", (ws.option? "--idle-timeout").getD "3s"⟩

/-- The command that a name and its options and operands stand for. -/
def readRequest (command : String) (ws : Words) : Except Refusal Request := do
  match command with
  | "watch" =>
    return .watch ⟨← oneOperand ws, (ws.option? "--count").bind count?, streamArguments ws⟩
  | "snapshot" =>
    let output ← required (ws.option? "--output")
    let timeout := (ws.option? "--timeout").getD "30s"
    return .snapshot ⟨← oneOperand ws, output, timeout, streamArguments ws⟩
  | "extract" =>
    let boundary ← required (ws.option? "--boundary")
    let count := (ws.option? "--count").bind count?
    return .extract ⟨← oneOperand ws, boundary, ws.option? "--out-dir", count⟩
  | "version" => return .version (ws.option? "--extended").isSome
  | _ => throw .usage

/-- What the command `help` comes to with the words behind it: it knows every command. -/
def helpOn : List String → Refusal
  | [] => .helpWanted
  | [command] =>
    if command == "help" || (operandCount? command).isSome then .helpWanted else .usage
  | _ => .usage

/-- What a command line asks for. -/
def parse (arguments : List String) : Except Refusal Invocation := do
  let (leading, rest) ← readWords leadingOption? .untilOperand .empty arguments
  match rest with
  | [] => throw .usage
  | command :: rest =>
    if command == "help" then throw (helpOn rest)
    let operands ← required (operandCount? command)
    let (own, _) ← readWords (commandOption? command) (.untilEnd operands) .empty rest
    let leading ← leading.settle
    let option? := fun name => (own.option? name).or (leading.option? name)
    return {
      format := (option? "--format").bind outputFormat?
      logFormat := ((option? "--log-format").bind logFormat?).getD .text
      logLevel := ((option? "--log-level").bind logLevel?).getD .info
      request := ← readRequest command own }

end Mjpeg.Command
