import JobShell.Errno
import JobShell.Signal

/-!
# How a process ends

A process ends by exiting with a code or by being killed by a signal. `Termination` is what the
shell keeps of it: the last status of a foreground command, and the outcome in the report on a
background one. Before any foreground command has ended the status is that of a success.
-/

namespace JobShell

/-- The end of a process. -/
inductive Termination where
  | exited (code : Int)
  | signaled (signal : Signal)
  deriving DecidableEq, Repr

namespace Termination

/-- The status before any foreground command has ended. -/
def success : Termination := .exited 0

instance : Inhabited Termination := ⟨success⟩

/-- The status as it is shown on request and after a foreground command was killed. -/
def statusText : Termination → String
  | .exited code => "exit status " ++ toString code
  | .signaled signal => "terminated by signal " ++ toString signal

/-- The outcome as the report on a background command shows it. -/
def outcomeText : Termination → String
  | .exited code => "exit value " ++ toString code
  | .signaled signal => "terminated by signal " ++ toString signal

/-- What a wait can tell of an end: the signal must be a classic one. -/
def decode : Termination → Except Errno Termination
  | .exited code => .ok (.exited code)
  | .signaled signal =>
    if signal ≤ Signal.maxClassic then .ok (.signaled signal) else .error .invalidArgument

/-- Whether a wait can tell the end: an exit, or a classic signal. -/
def isClassic : Termination → Bool
  | .exited _ => true
  | .signaled signal => signal ≤ Signal.maxClassic

end Termination

/-- A change in a child's state that a wait can report. -/
inductive WaitStatus where
  | exited (code : Int)
  | signaled (signal : Signal) (core : Bool)
  | stopped (signal : Signal)
  | continued
  | stillAlive
  deriving DecidableEq, Repr

namespace WaitStatus

/-- The end that a status reports, if it reports one. -/
def termination? : WaitStatus → Option Termination
  | .exited code => some (.exited code)
  | .signaled signal _ => some (.signaled signal)
  | _ => none

/-- Whether the signal that a status names, if any, is a classic one. -/
def isDecodable : WaitStatus → Bool
  | .signaled signal _ => Signal.isClassic signal
  | .stopped signal => Signal.isClassic signal
  | _ => true

/-- What a wait makes of a status: the end that it reports, if any. -/
def decode (status : WaitStatus) : Except Errno (Option Termination) :=
  if status.isDecodable then .ok status.termination? else .error .invalidArgument

end WaitStatus

end JobShell
