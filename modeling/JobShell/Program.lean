import JobShell.FileTree
import JobShell.JobTable
import JobShell.Signal
import JobShell.Text.Utf8

/-!
# Programs

What a program does once it runs, as far as the shell and the files can tell: it reads its standard
input, writes to descriptors, sends signals to itself or to the shell, and in the end exits or
waits to be told to. A program is started with its arguments, the working directory, the shell's
process id and the dispositions that it inherits.
-/

namespace JobShell

/-- The behaviour of a running program. -/
inductive Program where
  /-- Exits; only the low eight bits of the code count. -/
  | exit (code : Int)
  /-- Waits to be told to end. -/
  | hold
  /-- Writes to a descriptor, then goes on. -/
  | write (descriptor : Nat) (data : Bytes) (next : Program)
  /-- Reads standard input to its end, then goes on with the bytes, or with nothing if it cannot be
  read. -/
  | readAll (next : Option Bytes → Program)
  /-- Sends itself a signal, then goes on if it still can. -/
  | signalSelf (signal : Signal) (next : Program)
  /-- Sends the shell a signal and goes on once it is handled. -/
  | signalShell (signal : ShellSignal) (next : Program)

/-- A program, and what comes after it when it exits with a code. -/
def Program.andThen (next : Int → Program) : Program → Program
  | .exit code => next code
  | .hold => .hold
  | .write descriptor data p => .write descriptor data (p.andThen next)
  | .readAll p => .readAll fun data => (p data).andThen next
  | .signalSelf signal p => .signalSelf signal (p.andThen next)
  | .signalShell signal p => .signalShell signal (p.andThen next)

/-- How a program is started. -/
structure Invocation where
  args : List String
  cwd : Place
  shellPid : Pid
  dispositions : Dispositions

/-- A program file: what it does, by the way it is started. -/
abbrev Image := Invocation → Program

end JobShell
