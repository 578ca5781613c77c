import JobShell.Descriptors
import JobShell.FileTree
import JobShell.Process
import JobShell.Program
import JobShell.Transcript

/-!
# The machine under the shell

Files, open files, the working directory, the shell's children, and what has appeared on the output
streams so far. Open files keep their numbers for ever; each has an offset that all descriptors
referring to it share.
-/

namespace JobShell

/-- What an open file stands for. -/
inductive Target where
  | file (place : Place)
  | directory
  | nullDevice
  /-- A file that has no place in the tree. -/
  | unnamed (data : Bytes)
  | stream (stream : Stream)
  deriving DecidableEq, Repr

/-- An open file. -/
structure OpenFile where
  target : Target
  offset : Nat := 0
  readable : Bool
  writable : Bool
  deriving DecidableEq, Repr

/-- The machine. -/
structure Machine where
  tree : FileTree
  opened : List OpenFile
  cwd : Place
  children : Children
  nextPid : Pid
  /-- The system is out of processes for unprivileged users. -/
  exhausted : Bool
  transcript : Transcript
  deriving Repr

/-- The descriptors of a process that has just the three standard streams of `Machine.start`. -/
def Descriptors.standard : Descriptors :=
  ⟨[(standardInput, 0), (standardOutput, 1), (standardError, 2)]⟩

namespace Machine

/-- A machine with files, before anything has happened. Its open files are the three standard
streams, the input with the given contents; child processes are numbered from `nextPid` on. -/
def start (tree : FileTree) (cwd : Place) (nextPid : Pid) (input : Bytes) : Machine where
  tree
  opened := [
    { target := .unnamed input, readable := true, writable := false },
    { target := .stream .out, readable := false, writable := true },
    { target := .stream .err, readable := false, writable := true }]
  cwd
  children := []
  nextPid
  exhausted := false
  transcript := []

/-- Adds an entry to the transcript. -/
def record (m : Machine) (entry : Entry) : Machine :=
  { m with transcript := m.transcript ++ [entry] }

/-! ## Opening -/

/-- Adds an open file. -/
def addOpen (m : Machine) (file : OpenFile) : Machine × OpenId :=
  ({ m with opened := m.opened ++ [file] }, m.opened.length)

/-- Opens the file, directory or device that a path names for reading. -/
def openRead (m : Machine) (path : String) : Machine × Except Errno OpenId :=
  match m.tree.locate m.cwd path with
  | .error e => (m, .error e)
  | .ok place =>
    let target := match m.tree.node? place with
      | some .directory => .directory
      | some .nullDevice => .nullDevice
      | _ => .file place
    let (m, id) := m.addOpen { target, readable := true, writable := false }
    (m, .ok id)

/-- Opens the file or device that a path names for writing: emptied if it is there, made if not. -/
def openWrite (m : Machine) (path : String) : Machine × Except Errno OpenId :=
  match m.tree.locateForWriting m.cwd path with
  | .error e => (m, .error e)
  | .ok place =>
    let target := if m.tree.node? place = some .nullDevice then .nullDevice else .file place
    let m := { m with tree := m.tree.truncate place }
    let (m, id) := m.addOpen { target, readable := false, writable := true }
    (m, .ok id)

/-- Whether a process with these descriptors has the file at a place open for writing. -/
def isWriter (m : Machine) (d : Descriptors) (place : Place) : Bool :=
  d.entries.any fun e =>
    match m.opened[e.2]? with
    | some file => file.writable && file.target == .file place
    | none => false

/-- Whether a process with descriptors `d`, or a child that is alive, has the file at a place open
for writing. -/
def isBusy (m : Machine) (d : Descriptors) (place : Place) : Bool :=
  m.isWriter d place || m.children.any fun c => !c.isDead && m.isWriter c.descriptors place

/-! ## Reading and writing -/

/-- Moves the offset of an open file. -/
def seek (m : Machine) (id : OpenId) (offset : Nat) : Machine :=
  { m with opened := m.opened.modify id fun f => { f with offset } }

/-- What can be read from a target; a directory cannot. -/
def readable? (m : Machine) : Target → Option Bytes
  | .file place => some (m.tree.contents place)
  | .unnamed data => some data
  | .nullDevice => some []
  | .stream _ => some []
  | .directory => none

/-- Reads at most `limit` bytes from an open file, all that is left if there is no limit. -/
def read (m : Machine) (id : OpenId) (limit : Option Nat) : Machine × Option Bytes :=
  match m.opened[id]? with
  | none => (m, none)
  | some file =>
    if file.readable then
      match m.readable? file.target with
      | none => (m, none)
      | some data =>
        let left := data.drop file.offset
        let taken := match limit with
          | some n => left.take n
          | none => left
        (m.seek id (file.offset + taken.length), some taken)
    else (m, none)

/-- `data` with `new` written at an offset; a gap before it is filled with zeros. -/
def splice (data : Bytes) (offset : Nat) (new : Bytes) : Bytes :=
  if new.isEmpty then data
  else
    data.take offset ++ List.replicate (offset - data.length) 0 ++ new ++
      data.drop (offset + new.length)

/-- Writes to an open file. The number of bytes written, or nothing if it cannot be written to. -/
def write (m : Machine) (id : OpenId) (data : Bytes) : Machine × Option Nat :=
  match m.opened[id]? with
  | none => (m, none)
  | some file =>
    if file.writable then
      match file.target with
      | .file place =>
        let tree := m.tree.setContents place (splice (m.tree.contents place) file.offset data)
        (({ m with tree }).seek id (file.offset + data.length), some data.length)
      | .stream stream => (m.record (.written stream data), some data.length)
      | _ => (m, some data.length)
    else (m, none)

/-- Reads from a descriptor. -/
def readFrom (m : Machine) (d : Descriptors) (n : Nat) (limit : Option Nat) :
    Machine × Option Bytes :=
  match d.get? n with
  | some id => m.read id limit
  | none => (m, none)

/-- Writes to a descriptor. -/
def writeTo (m : Machine) (d : Descriptors) (n : Nat) (data : Bytes) : Machine × Option Nat :=
  match d.get? n with
  | some id => m.write id data
  | none => (m, none)

/-! ## What changes when files are used -/

/-- The machine `m'` comes after `m`: files have been opened, read and written, and nothing else has
changed. -/
def Files (m m' : Machine) : Prop :=
  ∃ tree opened written, m' = { m with tree, opened, transcript := m.transcript ++ written } ∧
    ∀ e ∈ written, e.isWritten = true

end Machine

/-! ## Handles on new descriptors -/

namespace Handle

/-- A way to open a path. -/
abbrev Opener := Machine → String → Machine × Except Errno OpenId

/-- Opens a path with a descriptor of its own. -/
def openWith (opener : Opener) (m : Machine) (d : Descriptors) (path : String) :
    Machine × Descriptors × Except ShellError Handle :=
  match opener m path with
  | (m, .error e) => (m, d, .error (.system e))
  | (m, .ok id) =>
    let (n, d) := d.insert id
    (m, d, .ok ⟨some n⟩)

end Handle

end JobShell
