import Mjpeg.Command.Arguments
import Mjpeg.Command.Report
import Mjpeg.Reader

/-!
# Extracting the frames of a captured body

The frames of a file or of the standard input are printed one after the other, and written to a
directory if one is named, until the input ends, cannot be read on, or as many frames as were
asked for have been printed. A frame may be written over the very file that is read, which then
ends there.
-/

namespace Mjpeg.Command.Extract

/-- The token of a boundary as a user writes it, without pairs of dashes before it. -/
def tokenOfArgument : List Char → List Char
  | '-' :: '-' :: cs => tokenOfArgument cs
  | cs => cs

/-- A number in decimal with at least five digits. -/
def fiveDigits (n : Nat) : String :=
  let digits := toString n
  String.ofList (List.replicate (5 - digits.length) '0') ++ digits

/-- The name of the file for the frame of the given number. -/
def frameFileName (index : Nat) : String := "frame-" ++ fiveDigits index ++ ".jpg"

/-- What is extracted from. -/
structure Input where
  /-- What reading it will come to. -/
  events : List ReadEvent
  /-- The place of the file that is read, if it is one. -/
  place : Option (List String)

/-- The input that an argument names. -/
def source (env : Environment) (input : String) : Except CommandError Input :=
  if input = "-" then .ok ⟨[.data env.stdin], none⟩
  else match env.files.open? input with
    | .error e => .error (.ofIo ("open " ++ input) e)
    | .ok .directory => .ok ⟨[.failed FileTree.isDirectory], none⟩
    | .ok (.file contents) => .ok ⟨[.data contents], env.files.place? input⟩

/-- The files with the directory for the frames in place, or why it is not. -/
def prepareDirectory (files : FileTree) : Option String → FileTree × Option CommandError
  | none => (files, none)
  | some dir =>
    let (files, error) := files.makeDirectories dir
    (files, error.map (.ofIo ("create " ++ dir)))

/-- Writes a frame to its file, if there is a directory for the frames. -/
def writeFrame (files : FileTree) (index : Nat) (frame : Frame) :
    Option String → Except CommandError (Option String × FileTree)
  | none => .ok (none, files)
  | some dir =>
    let path := FileTree.join dir (frameFileName index)
    match files.write path frame.payload with
    | .error e => .error (.ofIo ("write " ++ path) e)
    | .ok files => .ok (some path, files)

/-- The files while frames are written: those that were there before, and the frames written since,
the latest first, with their places. No frame is looked for among those written before it, so
writing one takes no longer the more there are. -/
structure Store where
  before : FileTree
  frames : List (List String × Bytes)

/-- The files as they are. -/
def Store.tree (s : Store) : FileTree := s.before.putAll s.frames.reverse

/-- Writes a frame to its file, if there is a directory for the frames. -/
def Store.write (s : Store) (index : Nat) (frame : Frame) (outDir : Option String) :
    Except CommandError (Option String × Store) :=
  match outDir with
  | none => .ok (none, s)
  | some dir =>
    let path := FileTree.join dir (frameFileName index)
    match s.before.writablePlace path with
    | .ok place => .ok (some path, { s with frames := (place, frame.payload) :: s.frames })
    | .error _ =>
      -- why a frame cannot be written is told by the files as they are
      (writeFrame s.tree index frame outDir).map fun (path, files) => (path, ⟨files, []⟩)

/-- The events at the end of the input or of the frames that were asked for. -/
def closingEvents (frames malformed : Nat) : List Log.Event :=
  (if malformed > 0 then
    [⟨.warn, .extract, "skipped segments without a header separator",
      [("malformed", .number malformed)]⟩]
  else []) ++ [⟨.info, .extract, "extract finished", [("frames", .number frames)]⟩]

/-- What was done when the printing has ended well. -/
def finish (files : FileTree) (extracted malformed : Nat) : Report :=
  { closed := true, events := closingEvents extracted malformed, files }

/-- What was done when the reader answers an error: at the end of the input the printing has ended
well. -/
def ended (files : FileTree) (extracted malformed : Nat) : FrameError → Report
  | .connectionClosed => finish files extracted malformed
  | e => { files, error := some (.ofFrame "extract failed" e) }

/-- What was done once malformed segments of some lengths had been passed over. -/
def logged (skipped : List Nat) (report : Report) : Report :=
  { report with events := skipped.map Decoder.skippedEvent ++ report.events }

/-- The reader of the file at `input` once a frame has been written to a path. A frame is shorter
than what was read to find it, so nothing is left to read of a file that it was written over. -/
def readOn (files : FileTree) (input : Option (List String)) (path : Option String) (r : Reader) :
    Reader :=
  if input.isSome && path.bind files.place? == input then { r with source := [] } else r

theorem weight_readOn_le (files : FileTree) (input : Option (List String)) (path : Option String)
    (r : Reader) : (readOn files input path r).weight ≤ r.weight := by
  unfold readOn
  split
  · exact Nat.add_le_add_left (Nat.zero_le _) _
  · exact Nat.le_refl _

/-- Prints and writes the frames that the reader of the file at `input` answers, `extracted` of
which have been done and `malformed` segments passed over. -/
def printFrames (arguments : ExtractArguments) (input : Option (List String)) (s : Store)
    (extracted malformed : Nat) (r : Reader) : Report :=
  match h : r.readFrame with
  | { skipped, outcome := .error e, .. } =>
    logged skipped (ended s.tree extracted (malformed + skipped.length) e)
  | { reader := rest, skipped, outcome := .ok frame } =>
    let index := extracted + 1
    let malformed := malformed + skipped.length
    match s.write index frame arguments.outDir with
    | .error e => logged skipped { files := s.tree, error := some e }
    | .ok (path, s) =>
      have : (readOn s.before input path rest).weight < r.weight := by
        have lt := Reader.weight_readFrame_lt (r := r) (by rw [h])
        rw [h] at lt
        exact Nat.lt_of_le_of_lt (weight_readOn_le s.before input path rest) lt
      let report :=
        if isEnough arguments.count index then finish s.tree index malformed
        else printFrames arguments input s index malformed (readOn s.before input path rest)
      logged skipped
        { report with records := ⟨index, arguments.input, frame, path⟩ :: report.records }
termination_by r.weight

/-- Carries out the command. -/
def report (arguments : ExtractArguments) (env : Environment) : Report :=
  let token := String.ofList (tokenOfArgument arguments.boundary.toList)
  match Boundary.ofToken? (Bytes.ofText token) with
  | .error e => { files := env.files, error := some ⟨.usage, "invalid boundary: " ++ e.message⟩ }
  | .ok boundary =>
    match source env arguments.input with
    | .error e => { files := env.files, error := some e }
    | .ok input =>
      match prepareDirectory env.files arguments.outDir with
      | (files, some e) => { files, error := some e }
      | (files, none) =>
        printFrames arguments input.place ⟨files, []⟩ 0 0
          (Reader.start boundary defaultMaxBuffer input.events)

end Mjpeg.Command.Extract
