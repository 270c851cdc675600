import Mjpeg.Bytes
import Mjpeg.IoError
import Mjpeg.Text.Split

/-!
# Files and directories

A tree of files as a command line sees it: each place, as the list of the names that lead to it,
holds a file or a directory. The place of an absolute path begins with the empty name.

A path is followed step by step. Each step but the last must lead to a directory, also one that
a later pair of dots leaves again. `open?`, `makeDirectories` and `write` are the three things
that are done to a tree, and fail as an operating system fails. `putAll` puts many files at once.
-/

namespace Mjpeg

/-- What stands at a place. -/
inductive FileEntry where
  | file (contents : Bytes)
  | directory
  deriving Repr, DecidableEq

/-- The files and directories below the working directory. -/
structure FileTree where
  entries : List (List String × FileEntry)
  deriving Repr, DecidableEq

namespace FileTree

/-! ### Failures -/

/-- Nothing stands at a place. -/
def notFound : IoError := ⟨.notFound, some "No such file or directory (os error 2)"⟩

/-- Something else stands at the place of a new directory. -/
def alreadyThere : IoError := ⟨.alreadyExists, some "File exists (os error 17)"⟩

/-- A file stands where a path goes on. -/
def notDirectory : IoError := ⟨.other, some "Not a directory (os error 20)"⟩

/-- A directory stands where a file is wanted. -/
def isDirectory : IoError := ⟨.other, some "Is a directory (os error 21)"⟩

/-- A name or a path is longer than any may be. -/
def nameTooLong : IoError := ⟨.other, some "File name too long (os error 36)"⟩

/-- The most octets of a name. -/
def maxName : Nat := 255

/-- The most octets of a path. -/
def maxPath : Nat := 4095

/-! ### Paths -/

/-- A path as the steps that it takes. -/
structure Route where
  /-- The place where it starts. -/
  start : List String
  /-- The names, the dots and the pairs of dots between the slashes. -/
  steps : List String
  /-- A slash stands at the end. -/
  slashed : Bool
  deriving Repr, DecidableEq

/-- The steps of a path. -/
def route (path : String) : Route :=
  let pieces := (Text.splitAll (· == '/') path.toList).map String.ofList
  { start := if path.startsWith "/" then [""] else []
    steps := pieces.filter (· != "")
    slashed := path.endsWith "/" }

namespace Route

/-- The step leads to a new place by a name. -/
def isName (step : String) : Bool := step != "." && step != ".."

/-- The route without the dots that change nothing: all but one at the start of a relative
path. -/
def plain (r : Route) : Route :=
  let first := if r.start.isEmpty && r.steps.head? == some "." then ["."] else []
  { r with steps := first ++ r.steps.filter (· != "."), slashed := false }

/-- The routes to the directory that holds the end of a route, to the one that holds that, and
so on, as far as they can have been missing. -/
def above (r : Route) : List Route :=
  let steps := r.plain.steps
  (List.range (steps.length - 1)).reverse.map fun n => { r.plain with steps := steps.take (n + 1) }

end Route

/-- The path of a name within a directory. -/
def join (directory name : String) : String :=
  if directory.isEmpty || directory.endsWith "/" then directory ++ name
  else directory ++ "/" ++ name

/-- The place above a place. -/
def placeAbove : List String → List String
  | [] => [".."]
  | [""] => [""]
  | place => if place.getLast? == some ".." then place ++ [".."] else place.dropLast

/-! ### Places -/

/-- What stands at a place, if anything does. The root, the working directory and those above it
are always there. -/
def get? (t : FileTree) (place : List String) : Option FileEntry :=
  if place == [""] || place.all (· == "..") then some .directory
  else (t.entries.find? fun (p, _) => p == place).map (·.2)

/-- The same tree with another entry at a place. -/
def put (t : FileTree) (place : List String) (entry : FileEntry) : FileTree :=
  ⟨t.entries.filter (fun (p, _) => p != place) ++ [(place, entry)]⟩

/-- The place that a name leads to from a directory. -/
def placeOf (directory : List String) (name : String) : Except IoError (List String) :=
  if name.utf8ByteSize > maxName then .error nameTooLong else .ok (directory ++ [name])

/-- The directory that a step leads to from another one. -/
def enter (t : FileTree) (directory : List String) (step : String) :
    Except IoError (List String) := do
  if step == "." then return directory
  if step == ".." then return placeAbove directory
  let place ← placeOf directory step
  match t.get? place with
  | none => throw notFound
  | some (.file _) => throw notDirectory
  | some .directory => return place

/-- The directory that all steps but the last lead to, and the last one. -/
def walk (t : FileTree) (r : Route) : Except IoError (List String × Option String) := do
  return (← r.steps.dropLast.foldlM t.enter r.start, r.steps.getLast?)

/-- The place that a path leads to by a name. -/
def place? (t : FileTree) (path : String) : Option (List String) :=
  match t.walk (route path) with
  | .ok (directory, some name) => some (directory ++ [name])
  | .ok (_, none) | .error _ => none

/-- A directory stands at the end of a route. -/
def isDirectoryAt (t : FileTree) (r : Route) : Bool := (r.steps.foldlM t.enter r.start).isOk

/-- A path that can be followed. -/
def checkLength (path : String) : Except IoError Unit :=
  if path.isEmpty then .error notFound
  else if path.utf8ByteSize > maxPath then .error nameTooLong
  else .ok ()

/-! ### Operations -/

/-- What opening a path for reading finds there. A slash or a dot at the end asks for a
directory. -/
def open? (t : FileTree) (path : String) : Except IoError FileEntry := do
  checkLength path
  let r := route path
  match ← t.walk r with
  | (directory, some name) =>
    if r.slashed || !Route.isName name then
      let _ ← t.enter directory name
      return .directory
    match t.get? (← placeOf directory name) with
    | none => throw notFound
    | some entry => return entry
  | (_, none) => return .directory

/-- The tree with a new directory at the end of a route. -/
def makeDirectory (t : FileTree) (r : Route) : Except IoError FileTree := do
  match ← t.walk r with
  | (directory, some name) =>
    if !Route.isName name then throw alreadyThere
    let place ← placeOf directory name
    if (t.get? place).isSome then throw alreadyThere
    return t.put place .directory
  | (_, none) => throw alreadyThere

/-- The tree with a directory at the end of a route, whether it is new or not. -/
def ensureDirectory (t : FileTree) (r : Route) : Except IoError FileTree :=
  match t.makeDirectory r with
  | .ok t => .ok t
  | .error e => if e = alreadyThere && t.isDirectoryAt r then .ok t else .error e

/-- The routes that a directory is wanted at before one can be made at the last of them, from
the first that is missing on. -/
def missing (t : FileTree) : List Route → Except IoError (List Route)
  | [] => .ok []
  | r :: rs =>
    match t.ensureDirectory r with
    | .ok _ => .ok [r]
    | .error e => if e = notFound then (t.missing rs).map (· ++ [r]) else .error e

/-- The tree with a directory at the end of each route, as far as they can be made, and why the
next cannot be. -/
def ensureDirectories (t : FileTree) : List Route → FileTree × Option IoError
  | [] => (t, none)
  | r :: rs =>
    match t.ensureDirectory r with
    | .ok t => t.ensureDirectories rs
    | .error e => (t, some e)

/-- The tree with a directory at a path and at every path above it that was not there. If one
cannot be made, those above it remain. -/
def makeDirectories (t : FileTree) (path : String) : FileTree × Option IoError :=
  let r := route path
  match checkLength path, t.missing (r :: r.above) with
  | .error e, _ | .ok _, .error e => (t, some e)
  | .ok _, .ok routes => t.ensureDirectories routes

/-- The place at which a path lets a file be written. -/
def writablePlace (t : FileTree) (path : String) : Except IoError (List String) := do
  checkLength path
  let r := route path
  match ← t.walk r with
  | (directory, some name) =>
    if r.slashed || !Route.isName name then throw isDirectory
    let place ← placeOf directory name
    match t.get? place with
    | some .directory => throw isDirectory
    | some (.file _) | none => return place
  | (_, none) => throw isDirectory

/-- The tree with a file at a path. -/
def write (t : FileTree) (path : String) (contents : Bytes) : Except IoError FileTree :=
  (t.writablePlace path).map (t.put · (.file contents))

/-- The tree with files at some places, which differ from each other. -/
def putAll (t : FileTree) (files : List (List String × Bytes)) : FileTree :=
  ⟨t.entries.filter (fun (place, _) => files.all (·.1 != place)) ++
    files.map fun (place, contents) => (place, .file contents)⟩

/-! ### Changes -/

/-- An entry stands at a place. -/
def has (t : FileTree) (place : List String) (entry : FileEntry) : Bool :=
  match t.get? place, entry with
  | some (.file contents), .file contents' => contents == contents'
  | some .directory, .directory => true
  | _, _ => false

/-- The entries that a tree has and an earlier one had not. -/
def changesSince (after before : FileTree) : List (List String × FileEntry) :=
  after.entries.filter fun (place, entry) => !before.has place entry

/-- The places where following a path may look, from its start on. -/
def places (path : String) : List (List String) :=
  let r := route path
  (r.steps.foldl (fun (places, place) step =>
    let next :=
      if step == "." then place else if step == ".." then placeAbove place else place ++ [step]
    (places ++ [next], next)) ([], r.start)).1

end FileTree

end Mjpeg
