import JobShell.Launch

/-!
# Calls on descriptors that fail

The system can fail to carry out a call on descriptors that is in order: there are too many open
files, the call is interrupted, a disk is broken. `Handle.openUnder`, `Handle.duplicateUnder` and
`Handle.closeUnder` make the calls of `Handle` when the system fails with an error of its own, if it
does. A file that is not opened and a descriptor that is not duplicated leave everything as it was.
A descriptor is closed also where closing it fails. A call that is not made cannot fail.

`Launch.prepareUnder` sets up a child on such a system, and `Workbench` holds handles by their names
while one operation after the other is carried out on them.
-/

namespace JobShell

namespace Handle

/-- Opens a path with a descriptor of its own. -/
def openUnder (failure : Option Errno) (opener : Opener) (m : Machine) (d : Descriptors)
    (path : String) : Machine × Descriptors × Except ShellError Handle :=
  match failure with
  | some e => (m, d, .error (.system e))
  | none => openWith opener m d path

/-- Whether the system is asked to make the number of `target` refer to the open file of `h`. -/
def asks (h target : Handle) : Bool :=
  h.isValid && target.isValid && h != target

/-- Makes the number of `target` refer to the open file of `h`. -/
def duplicateUnder (failure : Option Errno) (h target : Handle) (d : Descriptors) :
    Descriptors × Except ShellError Unit :=
  match failure, h.asks target, h.duplicate target d with
  | some e, true, _ => (d, .error (.system e))
  | _, _, .ok d => (d, .ok ())
  | _, _, .error e => (d, .error e)

/-- Gives the handle up. -/
def closeUnder (failure : Option Errno) (h : Handle) (d : Descriptors) :
    Handle × Descriptors × Except ShellError Unit :=
  match failure, h.number? with
  | some e, some n =>
    if n ≤ standardError then h.close d else (⟨none⟩, d.erase n, .error (.system e))
  | _, _ => h.close d

end Handle

/-! ## Setting up a child -/

namespace Launch

/-- The errors with which the calls of a redirection fail. -/
structure Failures where
  opening : Option Errno := none
  duplicating : Option Errno := none
  closing : Option Errno := none
  deriving DecidableEq, Repr

/-- Opens a path and puts it in the place of the standard descriptor `target`. -/
def redirectUnder (failures : Failures) (opener : Handle.Opener) (purpose : String) (target : Nat)
    (m : Machine) (d : Descriptors) (path : String) : Machine × Descriptors × Except String Unit :=
  match Handle.openUnder failures.opening opener m d path with
  | (m, d, .error _) => (m, d, .error ("cannot open " ++ path ++ " for " ++ purpose))
  | (m, d, .ok handle) =>
    match handle.duplicateUnder failures.duplicating ⟨some target⟩ d with
    | (d, result) =>
      (m, (handle.closeUnder failures.closing d).2.1, result.mapError ShellError.message)

/-- Redirects a stream to a path if there is one. -/
def redirectAnyUnder (failures : Failures) (opener : Handle.Opener) (purpose : String)
    (target : Nat) (path? : Option String) (m : Machine) (d : Descriptors) :
    Machine × Descriptors × Except String Unit :=
  match path? with
  | some path => redirectUnder failures opener purpose target m d path
  | none => (m, d, .ok ())

/-- The errors with which the calls of a child that is set up fail: of the one that sets its
dispositions, and of those that redirect its output and its input. -/
structure SetupFailures where
  dispositions : Option Errno := none
  output : Failures := {}
  input : Failures := {}
  deriving DecidableEq, Repr

/-- Sets up a child's descriptors once its dispositions are set. -/
def prepareUnder (failures : SetupFailures) (c : Command) (m : Machine) (d : Descriptors) :
    Machine × Descriptors × Except String Unit :=
  match failures.dispositions with
  | some e => (m, d, .error (ShellError.system e).message)
  | none =>
    match redirectAnyUnder failures.output Machine.openWrite "output" standardOutput
        (redirection c.output c.background) m d with
    | (m, d, .error e) => (m, d, .error e)
    | (m, d, .ok ()) =>
      redirectAnyUnder failures.input Machine.openRead "input" standardInput
        (redirection c.input c.background) m d

end Launch

/-! ## Handles with names -/

/-- What a path is opened for. -/
inductive Access where
  | read
  | write
  deriving DecidableEq, Repr

/-- How a path is opened. -/
def Access.opener : Access → Handle.Opener
  | .read => Machine.openRead
  | .write => Machine.openWrite

/-- An operation on handles that are known by their names. -/
inductive HandleOperation where
  /-- The name comes to stand for a handle on a number. -/
  | ofNumber (name : String) (n : Int)
  /-- The name comes to stand for a handle on a path that is opened. -/
  | opens (access : Access) (name path : String)
  | duplicate (name target : String)
  | close (name : String)
  deriving DecidableEq, Repr

namespace HandleOperation

/-- The name that comes to stand for another handle. -/
def assigned? : HandleOperation → Option String
  | .ofNumber name _ => some name
  | .opens _ name _ => some name
  | .duplicate _ _ => none
  | .close _ => none

end HandleOperation

/-- Handles with names, and the process and the machine they belong to. -/
structure Workbench where
  machine : Machine
  descriptors : Descriptors
  handles : String → Option Handle := fun _ => none

namespace Workbench

/-- Lets a name stand for a handle. -/
def put (b : Workbench) (name : String) (h : Handle) : Workbench :=
  { b with handles := fun other => if other = name then some h else b.handles other }

/-- Carries out an operation. It has no result if it uses a name that stands for nothing. -/
def perform (b : Workbench) (failure : Option Errno) :
    HandleOperation → Workbench × Option (Except ShellError Unit)
  | .ofNumber name n =>
    match Handle.ofNumber n with
    | .ok h => (b.put name h, some (.ok ()))
    | .error e => (b, some (.error e))
  | .opens access name path =>
    match Handle.openUnder failure access.opener b.machine b.descriptors path with
    | (machine, descriptors, .ok h) =>
      (({ b with machine, descriptors }).put name h, some (.ok ()))
    | (machine, descriptors, .error e) => ({ b with machine, descriptors }, some (.error e))
  | .duplicate name target =>
    match b.handles name, b.handles target with
    | some h, some target =>
      match h.duplicateUnder failure target b.descriptors with
      | (descriptors, result) => ({ b with descriptors }, some result)
    | _, _ => (b, none)
  | .close name =>
    match b.handles name with
    | some h =>
      match h.closeUnder failure b.descriptors with
      | (h, descriptors, result) => (({ b with descriptors }).put name h, some result)
    | none => (b, none)

/-- Carries out operations, one after the other, each with the error the system fails with. -/
def performAll (b : Workbench) (history : List (HandleOperation × Option Errno)) : Workbench :=
  history.foldl (fun b step => (b.perform step.2 step.1).1) b

end Workbench

end JobShell
