import JobShell.CommandLine
import JobShell.Interpreter
import JobShell.Options.Document

/-!
# Starting the shell

The options of a shell come from three layers: the defaults, the document that the command line
names, and the command line itself. A shell that is started reads its lines from standard input,
block by block, and its children find there what it has not read.
-/

namespace JobShell

/-! ## Options -/

/-- The options that the document at a path gives. -/
def Options.ofFile (tree : FileTree) (cwd : Place) (path : String) : Except ShellError Options :=
  match tree.readText cwd path with
  | .error e => .error (.config (path ++ ": " ++ e.message))
  | .ok document => Options.ofDocument document

namespace Arguments

/-- The options below the command line. -/
def base (a : Arguments) (tree : FileTree) (cwd : Place) : Except ShellError Options :=
  match a.config with
  | none => .ok {}
  | some path => Options.ofFile tree cwd path

/-- Options with those of the command line in their stead. -/
def override (a : Arguments) (o : Options) : Options :=
  { o with prompt := a.prompt.getD o.prompt, maxJobs := a.maxJobs.getD o.maxJobs }

/-- The options of a shell that is started with arguments. -/
def options (a : Arguments) (tree : FileTree) (cwd : Place) : Except ShellError Options :=
  (a.base tree cwd).map a.override

end Arguments

/-! ## Starting -/

/-- What comes of a start. -/
inductive Startup where
  | help
  | usage (error : UsageError)
  | refused (error : ShellError)
  | shell (options : Options)
  deriving DecidableEq, Repr

/-- What comes of a start with arguments. -/
def Startup.of (tree : FileTree) (cwd : Place) (arguments : List String) : Startup :=
  match CommandLine.parse arguments with
  | .error e => .usage e
  | .ok .help => .help
  | .ok (.shell a) =>
    match a.options tree cwd with
    | .error e => .refused e
    | .ok options => .shell options

/-- The exit status of a process that exits with a code. -/
def exitStatus (code : Int) : Nat :=
  (code % 256).toNat

/-- What a process leaves behind: the machine, and its exit status unless it waits for ever. -/
structure Aftermath where
  machine : Machine
  status : Option Nat

namespace Startup

/-- The exit status of a start that is refused. -/
def refusedStatus : Nat := 1

/-- The exit status after a usage error. -/
def usageStatus : Nat := 2

/-- Writes a text and exits. -/
def finish (machine : Machine) (stream : Stream) (text : String) (status : Nat) : Aftermath :=
  ⟨machine.record (.written stream (Text.encode text)), some status⟩

/-- Runs the program to its end. -/
def run (env : Environment) (machine : Machine) : Startup → Aftermath
  | .help => finish machine .out CommandLine.helpText 0
  | .usage e => finish machine .err e.message usageStatus
  | .refused e => finish machine .err (e.message ++ "\n") refusedStatus
  | .shell options =>
    match (Session.new options .standard machine).runShared env with
    | (s, .returned code) => ⟨s.machine, some (exitStatus code)⟩
    | (s, .stuck _) => ⟨s.machine, none⟩

end Startup

end JobShell
