import JobShell.Errno
import JobShell.Text.Utf8
import JobShell.Text.Words

/-!
# The file tree

Directories, regular files and the null device, each at a place: the names that lead to it from the
root. A path is resolved name by name, every step out of a directory; `.` and `..` are steps like
any other. Opening for writing makes a missing file and empties one that is there, and leaves the
permission bits of the latter alone.
-/

namespace JobShell

/-- A place in the file tree: the names that lead to it from the root. -/
abbrev Place := List String

namespace Place

/-- The absolute path of a place. -/
def path : Place → String
  | [] => "/"
  | names => String.join (names.map ("/" ++ ·))

/-- A place at or below `base` is shown by the name `label` of that base and the way from there,
any other place by its absolute path. -/
def showFrom (base : Place) (label : String) (place : Place) : String :=
  if base.isPrefixOf place then
    label ++ String.join ((place.drop base.length).map ("/" ++ ·))
  else place.path

end Place

/-- What stands at a place. -/
inductive Node where
  | directory
  | file (mode : Nat) (data : Bytes)
  | nullDevice
  deriving DecidableEq, Repr

/-- The nodes below the root. -/
structure FileTree where
  nodes : List (Place × Node) := []
  deriving Repr

namespace FileTree

/-- The node at a place. The root is a directory. -/
def node? (t : FileTree) (place : Place) : Option Node :=
  if place = [] then some .directory else t.nodes.lookup place

def isDirectory (t : FileTree) (place : Place) : Bool :=
  t.node? place == some .directory

/-- Puts a node at a place, in the stead of the one that is there. -/
def set (t : FileTree) (place : Place) (node : Node) : FileTree :=
  if (t.nodes.lookup place).isSome then
    ⟨t.nodes.map fun e => if e.1 = place then (place, node) else e⟩
  else ⟨t.nodes ++ [(place, node)]⟩

/-- Makes a directory and those above it that are missing. -/
def makeDirectories (t : FileTree) (place : Place) : FileTree :=
  (List.range place.length).foldl
    (fun t n =>
      let p := place.take (n + 1)
      if (t.node? p).isSome then t else t.set p .directory) t

/-- The usual directories, the null device, and the standard interpreter of scripts, of which only
its place counts. -/
def system : FileTree :=
  let directories := ["bin", "dev", "etc", "home", "lib", "opt", "proc", "root", "sbin", "sys",
    "tmp", "usr", "var"]
  let tree := directories.foldl (fun (t : FileTree) name => t.makeDirectories [name]) {}
  (tree.set ["dev", "null"] .nullDevice).set ["bin", "sh"] (.file 0o755 [])

/-! ## Paths -/

/-- The greatest length of a name, in bytes. -/
def maxName : Nat := 255

/-- The greatest length of a path, in bytes. -/
def maxPath : Nat := 4095

/-- The names in a path. -/
def names (path : String) : List String :=
  (Text.words (· == '/') path.toList).map String.ofList

/-- Where the resolution of a path starts. -/
def origin (cwd : Place) (path : String) : Place :=
  if path.toList.head? == some '/' then [] else cwd

/-- One step in the spelling of a place. -/
def spell (here : Place) (name : String) : Place :=
  if name = "." then here else if name = ".." then here.dropLast else here ++ [name]

/-- The place that a path spells, whether or not anything stands there. -/
def spelled (cwd : Place) (path : String) : Place :=
  (names path).foldl spell (origin cwd path)

/-- The number of modes: permissions are three bits each for the owner, the group and others. -/
def modeCount : Nat := 0o1000

/-- Puts a file at a place, and makes the directories above it that are missing. Of its mode only
the permissions are kept. -/
def addFile (t : FileTree) (place : Place) (mode : Nat) (data : Bytes) : FileTree :=
  (t.makeDirectories place.dropLast).set place (.file (mode % modeCount) data)

/-- A path that ends in a slash names a directory. -/
def endsInSlash (path : String) : Bool :=
  path.toList.getLast? == some '/'

/-- What no path may be: empty, too long, or holding the character NUL. -/
def checkPath (path : String) : Except Errno Unit :=
  if path.toList.contains '\x00' then .error .invalidArgument
  else if path.isEmpty then .error .noSuchFile
  else if maxPath < path.utf8ByteSize then .error .nameTooLong
  else .ok ()

/-- One step of the resolution, from the place `here`. -/
def enter (t : FileTree) (here : Place) (name : String) : Except Errno Place :=
  if !t.isDirectory here then .error .notDirectory
  else if name = "." then .ok here
  else if name = ".." then .ok here.dropLast
  else if maxName < name.utf8ByteSize then .error .nameTooLong
  else if (t.node? (here ++ [name])).isSome then .ok (here ++ [name])
  else .error .noSuchFile

/-- Follows names from the place `here`. -/
def walk (t : FileTree) (here : Place) (names : List String) : Except Errno Place :=
  names.foldlM t.enter here

/-- The place that a path names. -/
def locate (t : FileTree) (cwd : Place) (path : String) : Except Errno Place := do
  checkPath path
  let place ← t.walk (origin cwd path) (names path)
  if endsInSlash path && !t.isDirectory place then throw .notDirectory
  return place

/-- The directory that a path names. -/
def locateDirectory (t : FileTree) (cwd : Place) (path : String) : Except Errno Place := do
  let place ← t.locate cwd path
  if t.isDirectory place then return place else throw .notDirectory

/-- The place of the file, there or to be made, that a path names for writing. -/
def locateForWriting (t : FileTree) (cwd : Place) (path : String) : Except Errno Place := do
  checkPath path
  match (names path).getLast? with
  | none => throw .isDirectory
  | some last =>
    let parent ← t.walk (origin cwd path) (names path).dropLast
    if !t.isDirectory parent then throw .notDirectory
    if endsInSlash path || last == "." || last == ".." then throw .isDirectory
    if maxName < last.utf8ByteSize then throw .nameTooLong
    if t.isDirectory (parent ++ [last]) then throw .isDirectory
    return parent ++ [last]

/-! ## Files -/

/-- The permission bits of a file that is made by opening it. -/
def newFileMode : Nat := 0o644

/-- Empties the file at a place, or makes it. -/
def truncate (t : FileTree) (place : Place) : FileTree :=
  match t.node? place with
  | some (.file mode _) => t.set place (.file mode [])
  | some _ => t
  | none => t.set place (.file newFileMode [])

/-- The contents of the file at a place. -/
def contents (t : FileTree) (place : Place) : Bytes :=
  match t.node? place with
  | some (.file _ data) => data
  | _ => []

/-- Replaces the contents of the file at a place. -/
def setContents (t : FileTree) (place : Place) (data : Bytes) : FileTree :=
  match t.node? place with
  | some (.file mode _) => t.set place (.file mode data)
  | _ => t

/-- The regular files below a place: the way from there, the permission bits and the contents. -/
def filesBelow (t : FileTree) (base : Place) : List (Place × Nat × Bytes) :=
  t.nodes.filterMap fun (place, node) =>
    match node with
    | .file mode data =>
      if base.isPrefixOf place then some (place.drop base.length, mode, data) else none
    | _ => none

end FileTree

/-- Why the text of a file could not be read. -/
inductive ReadFailure where
  | system (errno : Errno)
  | nulInPath
  | notText
  deriving DecidableEq, Repr

namespace ReadFailure

/-- The text of a failure. -/
def message : ReadFailure → String
  | .system errno => errno.description ++ " (os error " ++ toString errno.number ++ ")"
  | .nulInPath => "file name contained an unexpected NUL byte"
  | .notText => "stream did not contain valid UTF-8"

end ReadFailure

/-- The text of the file that a path names. -/
def FileTree.readText (t : FileTree) (cwd : Place) (path : String) : Except ReadFailure String :=
  if path.toList.contains '\x00' then .error .nulInPath
  else match t.locate cwd path with
    | .error e => .error (.system e)
    | .ok place =>
      if t.isDirectory place then .error (.system .isDirectory)
      else match Text.decode? (t.contents place) with
        | some text => .ok text
        | none => .error .notText

end JobShell
