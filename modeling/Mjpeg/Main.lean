import Std.Time.DateTime.Timestamp
import Mjpeg.Command

/-!
# The program

The outer layer of the command line: it looks up the files that the arguments name, hands them
over with the standard input and the environment, and carries out what comes back. No network
is at hand, so every camera is out of reach.
-/

namespace Mjpeg.Main

open Command

/-- The paths that a command line names, and whether the standard input is wanted. -/
def pathsOf (arguments : List String) : List String × Bool :=
  match parse arguments with
  | .error _ => ([], false)
  | .ok invocation =>
    match invocation.request with
    | .extract a =>
      let input := if a.input = "-" then [] else [a.input]
      (input ++ a.outDir.toList, a.input = "-")
    | .snapshot a => ([a.output], false)
    | .watch _ | .version _ => ([], false)

/-- What stands at a path. What is there and cannot be read as a file is taken for a directory. -/
def probe (path : String) : IO (Option FileEntry) := do
  match ← (IO.FS.readBinFile path).toBaseIO with
  | .ok contents => return some (.file contents.data.toList)
  | .error (.noFileOrDirectory _ _ _) => return none
  | .error _ => return some .directory

/-- The entries on the way to some paths. -/
def loadFiles (paths : List String) : IO FileTree := do
  let mut tree : FileTree := ⟨[]⟩
  for place in paths.flatMap FileTree.places do
    if let some entry ← probe ("/".intercalate place) then
      tree := tree.put place entry
  return tree

/-- Brings the working directory to what a command has left. -/
def storeFiles (before after : FileTree) : IO Unit := do
  for (names, entry) in after.changesSince before do
    match entry with
    | .directory => IO.FS.createDirAll ("/".intercalate names)
    | .file contents => IO.FS.writeBinFile ("/".intercalate names) contents.toByteArray

/-- The whole standard input. -/
partial def readAll (input : IO.FS.Stream) (read : ByteArray) : IO ByteArray := do
  let piece ← input.read 65536
  if piece.isEmpty then return read else readAll input (read ++ piece)

/-- Waits for ever. -/
partial def idle : IO UInt32 := do
  IO.sleep 1000
  idle

/-- This build, about which nothing is recorded. -/
def build : Version.Build := ⟨"unknown", "linux", "unknown", "unknown", "unknown"⟩

/-- The line of the error output for a diagnostic. -/
def diagnosticLine (clock : String) : Diagnostic → String
  | .line text => text
  | .event .text e => clock ++ " " ++ eventLine e
  | .event .json e => eventJson clock e

end Mjpeg.Main

open Mjpeg Mjpeg.Main in
/-- Runs the command line. -/
def main (arguments : List String) : IO UInt32 := do
  let (paths, wanted) := pathsOf arguments
  let files ← loadFiles paths
  let stdin ← if wanted then readAll (← IO.getStdin) ByteArray.empty else pure ByteArray.empty
  let clock := toString (← Std.Time.Timestamp.now).toSecondsSinceUnixEpoch.val
  let outcome? := Command.run build arguments
    { stdin := stdin.data.toList
      files
      camera := ⟨[], Http.unsentError⟩
      logFilter := ← IO.getEnv "RUST_LOG"
      clock
      patience := 60000 }
  match outcome? with
  | none => idle
  | some outcome =>
    storeFiles files outcome.files
    let stdout ← IO.getStdout
    stdout.write outcome.stdout.toByteArray
    stdout.flush
    for d in outcome.stderr do
      IO.eprintln (diagnosticLine clock d)
    return outcome.exit.code.toUInt32
