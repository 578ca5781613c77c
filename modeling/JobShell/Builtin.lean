import JobShell.Decimal.Word
import JobShell.Session

/-!
# Built-in commands

`cd` changes the working directory, `status` shows the last status, `exit` leaves the shell. They
run in the shell itself and take no notice of redirections or of a background marker.
-/

namespace JobShell

/-- The commands that the shell carries out itself. -/
inductive Builtin where
  | changeDirectory
  | status
  | exit
  deriving DecidableEq, Repr

namespace Builtin

/-- The built-in command of a name. -/
def ofName? (name : String) : Option Builtin :=
  if name = "cd" then some .changeDirectory
  else if name = "status" then some .status
  else if name = "exit" then some .exit
  else none

/-- Goes to the directory that a path names; `failure` is the error if there is none. -/
def enterDirectory (s : Session) (path : String) (failure : ShellError) : Session × Outcome :=
  match s.machine.tree.locateDirectory s.machine.cwd path with
  | .ok cwd => ({ s with machine := { s.machine with cwd } }, .ok)
  | .error _ => (s, .error failure)

/-- `cd [dir]`: goes to the directory, to the home directory if none is given. -/
def runChangeDirectory (env : Environment) (args : List String) (s : Session) :
    Session × Outcome :=
  match args, env.home with
  | path :: _, _ => enterDirectory s path (.invalidPath path)
  | [], some home => enterDirectory s home .homeUnset
  | [], none => (s, .error .homeUnset)

/-- The code of `exit [code]`: 0 if it is missing or not a number. -/
def exitCode (args : List String) : Int :=
  (args.head?.bind Decimal.code?).getD 0

/-- Carries out a built-in command. -/
def runOn (out : Output) (env : Environment) (args : List String) (s : Session) :
    Builtin → Session × Outcome
  | .changeDirectory => runChangeDirectory env args s
  | .status => s.sayOn out (.status s.lastStatus)
  | .exit => (s, .error (.exit (exitCode args)))

/-- Carries out a built-in command, with an output that takes everything. -/
def run (env : Environment) (args : List String) (s : Session) (b : Builtin) : Session × Outcome :=
  b.runOn .sound env args s

end Builtin

end JobShell
