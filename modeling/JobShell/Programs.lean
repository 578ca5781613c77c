import JobShell.Decimal.Integer
import JobShell.Program
import JobShell.Text.Expansion

/-!
# A set of programs

Small programs, each showing one way in which a child can act: writing to either stream, copying its
input, telling what it was started with, exiting with a code, killing itself, signalling the shell,
and living on until it is told to end.
-/

namespace JobShell.Programs

/-- Writes text to a descriptor and exits with code 0. -/
def print (descriptor : Nat) (text : String) : Program :=
  .write descriptor (Text.encode text) (.exit 0)

/-- The arguments on one line. -/
def line (args : List String) : String :=
  String.intercalate " " args ++ "\n"

/-- The number that the first argument gives, `missing` if there is none. -/
def number (args : List String) (missing : Int) : Int :=
  match args with
  | [] => missing
  | a :: _ => (Decimal.integer? a.toList).getD 0

/-- Exits with a code. -/
def exiting (code : Int) : Image := fun _ =>
  .exit code

/-- Prints its arguments. -/
def echo : Image := fun i =>
  print 1 (line i.args)

/-- Prints its arguments to standard error. -/
def err : Image := fun i =>
  print 2 (line i.args)

/-- Prints each argument in brackets on a line of its own. -/
def args : Image := fun i =>
  print 1 (String.join (i.args.map fun a => "[" ++ a ++ "]\n"))

/-- Copies standard input to standard output. -/
def cat : Image := fun _ =>
  .readAll fun
    | some data => .write 1 data (.exit 0)
    | none => .exit 1

/-- Prints the working directory. -/
def pwd (showPlace : Place → String) : Image := fun i =>
  print 1 (showPlace i.cwd ++ "\n")

/-- Prints its arguments with the shell's process id blotted out. -/
def mask : Image := fun i =>
  print 1 (Text.replaceAll (toString i.shellPid) "PID" (line i.args))

/-- Exits with the code that its argument gives. -/
def exitwith : Image := fun i =>
  .exit (number i.args 0)

/-- Sends itself a signal and exits if it outlives that. -/
def killself : Image := fun i =>
  .signalSelf (number i.args 15).toNat (.exit 0)

/-- Sends the shell a number of terminal stops. -/
def tstp : Image := fun i =>
  (number i.args 1).toNat.repeat (.signalShell .terminalStop) (.exit 0)

/-- Prints the dispositions that it was started with. -/
def sigs : Image := fun i =>
  print 1 ("INT=" ++ i.dispositions.interrupt.name ++ " TSTP=" ++
    i.dispositions.terminalStop.name ++ " CHLD=" ++ i.dispositions.childEnded.name ++ "\n")

/-- Lives until it is told to end. -/
def hold : Image := fun _ =>
  .hold

/-- The programs by name; `showPlace` is how the working directory is shown. -/
def table (showPlace : Place → String) : List (String × Image) := [
  ("true", exiting 0),
  ("false", exiting 1),
  ("exitwith", exitwith),
  ("echo", echo),
  ("args", args),
  ("err", err),
  ("cat", cat),
  ("pwd", pwd showPlace),
  ("mask", mask),
  ("killself", killself),
  ("tstp", tstp),
  ("sigs", sigs),
  ("hold", hold)]

/-- The program of a name. -/
def find? (showPlace : Place → String) (name : String) : Option Image :=
  (table showPlace).lookup name

end JobShell.Programs
