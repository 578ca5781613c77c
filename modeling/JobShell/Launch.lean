import JobShell.Script
import JobShell.Session

/-!
# The child side of a command

A new child sets up its signals and its redirections, output first, and then becomes the program.
What goes wrong on the way is written to its standard output, wherever that leads by then, and the
child exits with code 1. A background child without a redirection of its own reads from and writes
to the null device.
-/

namespace JobShell.Launch

/-! ## Redirections -/

def nullDevicePath : String := "/dev/null"

/-- Opens a path and puts it in the place of the standard descriptor `target`. -/
def redirect (opener : Handle.Opener) (purpose : String) (target : Nat) (m : Machine)
    (d : Descriptors) (path : String) : Machine × Descriptors × Except String Unit :=
  match Handle.openWith opener m d path with
  | (m, d, .error _) => (m, d, .error ("cannot open " ++ path ++ " for " ++ purpose))
  | (m, d, .ok handle) =>
    match handle.duplicate ⟨some target⟩ d with
    | .ok d => (m, (handle.close d).2.1, .ok ())
    | .error e => (m, (handle.close d).2.1, .error e.message)

/-- The path that a stream is redirected to: the one that is asked for, or the null device in the
background. -/
def redirection (asked : Option String) (background : Bool) : Option String :=
  match asked with
  | some path => some path
  | none => if background then some nullDevicePath else none

/-- Redirects output. -/
def redirectOutput (c : Command) (m : Machine) (d : Descriptors) :
    Machine × Descriptors × Except String Unit :=
  match redirection c.output c.background with
  | some path => redirect Machine.openWrite "output" standardOutput m d path
  | none => (m, d, .ok ())

/-- Redirects input. -/
def redirectInput (c : Command) (m : Machine) (d : Descriptors) :
    Machine × Descriptors × Except String Unit :=
  match redirection c.input c.background with
  | some path => redirect Machine.openRead "input" standardInput m d path
  | none => (m, d, .ok ())

/-- Sets up a child's descriptors. -/
def prepare (c : Command) (m : Machine) (d : Descriptors) :
    Machine × Descriptors × Except String Unit :=
  match redirectOutput c m d with
  | (m, d, .error e) => (m, d, .error e)
  | (m, d, .ok ()) => redirectInput c m d

/-! ## Finding a program -/

/-- Whether any of the execute permissions is given. -/
def isExecutable (mode : Nat) : Bool :=
  mode &&& 0o111 != 0

/-- The contents of the file that a path names, if a process with descriptors `d` may execute it:
nobody may write to it then. -/
def openExecutable (m : Machine) (d : Descriptors) (path : String) : Except Errno Bytes :=
  match m.tree.locate m.cwd path with
  | .error e => .error e
  | .ok place =>
    match m.tree.node? place with
    | some (.file mode data) =>
      if !isExecutable mode then .error .permissionDenied
      else if m.isBusy d place then .error .textBusy
      else .ok data
    | _ => .error .permissionDenied

/-- How many scripts in a row may name the next as their interpreter. -/
def maxScripts : Nat := 6

/-- Why the system itself does not run the file that a path names, after at most so many scripts in
a row. The tree holds no programs, so there is a reason for each file; it is the format where
nothing else is wrong. -/
def refusal (m : Machine) (d : Descriptors) : Nat → String → Errno
  | 0, path =>
    match openExecutable m d path with
    | .error e => e
    | .ok _ => .tooManyLinks
  | scripts + 1, path =>
    match openExecutable m d path with
    | .error e => e
    | .ok data =>
      match Script.interpreter? data with
      | some interpreter => refusal m d scripts interpreter
      | none => .formatError

/-- What runs the file that a path names: the standard interpreter, if only the format of the file
is in the way. -/
def findScript (env : Environment) (m : Machine) (d : Descriptors) (path : String) :
    Except Errno Image :=
  match openExecutable m d path with
  | .error e => .error e
  | .ok data =>
    if refusal m d maxScripts path = .formatError then .ok (Script.image env.programs path data)
    else .error (refusal m d maxScripts path)

/-- The program of a name. A name with a slash is a path; any other is looked for among the
programs, where the names of directories are in the way. -/
def findImage (env : Environment) (m : Machine) (d : Descriptors) (name : String) :
    Except Errno Image :=
  if name.toList.contains '/' then findScript env m d name
  else if FileTree.maxName < name.utf8ByteSize then .error .nameTooLong
  else if name = "." ∨ name = ".." then .error .permissionDenied
  else match env.programs name with
    | some image => .ok image
    | none => .error .noSuchFile

/-- The size that an argument must stay below, in bytes. -/
def argumentLimit : Nat := 131072

/-- The program of the first of some arguments, which all have to be short enough. -/
def findProgram (env : Environment) (m : Machine) (d : Descriptors) (name : String)
    (args : List String) : Except Errno Image :=
  match findImage env m d name with
  | .error e => .error e
  | .ok image =>
    if args.any fun a => argumentLimit ≤ a.utf8ByteSize then .error .argumentsTooLong
    else .ok image

/-- What is said when the program of a name cannot be started. -/
def refusalText (name : String) (e : Errno) : String :=
  if e = .noSuchFile then name ++ ": no such file or directory"
  else if e = .permissionDenied then name ++ ": permission denied"
  else name ++ ": " ++ e.description

/-- The program that arguments name, with the arguments that it gets. -/
def startProgram (env : Environment) (m : Machine) (d : Descriptors) (argv : List String) :
    Except String (Image × List String) :=
  match argv with
  | [] => .error "empty command"
  | name :: args =>
    match findProgram env m d name args with
    | .ok image => .ok (image, args)
    | .error e => .error (refusalText name e)

/-! ## Running -/

/-- Runs a program until it ends, is stopped, or waits to be told to end. -/
def run (d : Descriptors) (own : Dispositions) : Program → Session → Session × ChildState
  | .exit code, s => (s, .dead (.exited (code % 256)))
  | .hold, s => (s, .running)
  | .write n data next, s =>
    run d own next { s with machine := (s.machine.writeTo d n data).1 }
  | .readAll next, s =>
    run d own (next (s.machine.readFrom d standardInput none).2)
      { s with machine := (s.machine.readFrom d standardInput none).1 }
  | .signalSelf n next, s =>
    match SignalEffect.under own n with
    | .nothing => run d own next s
    | .stops => (s, .stopped none)
    | .kills => (s, .dead (.signaled n))
  | .signalShell n next, s => run d own next (s.receive n)

/-- The dispositions of the program of a command. -/
def dispositions (env : Environment) (c : Command) : Dispositions :=
  ((Dispositions.shell env.brokenPipe).forChild (!c.background)).afterExec

/-- What a child does that cannot become its program. -/
def failing (message : String) : Program :=
  .write standardOutput (Text.encode (message ++ "\n")) (.exit 1)

/-- What the child of a command does once it has tried to set up its descriptors, which are `d`. -/
def program (env : Environment) (c : Command) (argv : List String) (m : Machine) (d : Descriptors)
    (prepared : Except String Unit) : Program :=
  match prepared with
  | .error e => failing e
  | .ok () =>
    match startProgram env m d argv with
    | .error e => failing e
    | .ok (image, args) =>
      image { args, cwd := m.cwd, shellPid := env.pid, dispositions := dispositions env c }

/-- Runs the child of a command, whose arguments are `argv`. Its descriptors and its state are as it
leaves them. -/
def runChild (env : Environment) (c : Command) (argv : List String) (s : Session) :
    Session × Descriptors × ChildState :=
  let (machine, d, prepared) := prepare c s.machine s.descriptors
  let (s, state) :=
    run d (dispositions env c) (program env c argv machine d prepared) { s with machine }
  (s, d, state)

end JobShell.Launch
