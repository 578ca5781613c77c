import JobShell.Descriptors
import JobShell.JobTable
import JobShell.Termination

/-!
# The shell's children

A child runs, is stopped, or is dead and waits to be collected. Collecting takes it out of the
table for good. Waiting for any child hands out dead ones, oldest first.

A child that is sent a signal to stop does not stop at once but when it runs next. Of the signals that
wait for it then it acts on the one with the lowest number first, so that a signal to terminate is in
time to end it. A child that has come to its stop acts on no such signal until it is continued.
-/

namespace JobShell

/-- The state of a child. -/
inductive ChildState where
  | running
  /-- Stopped, perhaps with a fatal signal that takes effect when it is continued. -/
  | stopped (pending : Option Signal)
  | dead (how : Termination)
  deriving DecidableEq, Repr

/-- A child that has not been collected. -/
structure Child where
  pid : Pid
  dispositions : Dispositions
  descriptors : Descriptors
  state : ChildState
  /-- It has been sent a signal to stop and has not acted on it. -/
  stopping : Bool := false
  deriving DecidableEq, Repr

namespace Child

def isDead (c : Child) : Bool :=
  match c.state with
  | .dead _ => true
  | _ => false

/-- Whether a fatal signal comes too late to end a child before it stops. The signals to stop have
numbers in a row, and none of them is fatal. -/
def defers (signal : Signal) (c : Child) : Bool :=
  c.stopping && Signal.stop < signal

/-- A child after it has been sent a signal. A stopped child acts on a fatal signal only once it is
continued, except for the one that nothing holds up. -/
def receive (signal : Signal) (c : Child) : Child :=
  match c.state, SignalEffect.under c.dispositions signal with
  | .running, .kills =>
    if c.defers signal then { c with state := .stopped (some signal), stopping := false }
    else { c with state := .dead (.signaled signal) }
  | .running, .stops => { c with stopping := true }
  | .running, .nothing =>
    if signal = Signal.resume then { c with stopping := false } else c
  | .stopped pending, .kills =>
    if signal = Signal.kill then { c with state := .dead (.signaled signal) }
    else { c with state := .stopped (some (pending.getD signal)) }
  | .stopped pending, .nothing =>
    if signal = Signal.resume then
      match pending with
      | some fatal => { c with state := .dead (.signaled fatal) }
      | none => { c with state := .running }
    else c
  | _, _ => c

/-- A child that comes to the stop which it has been sent a signal to make. -/
def halt (c : Child) : Child :=
  match c.state, c.stopping with
  | .running, true => { c with state := .stopped none, stopping := false }
  | _, _ => c

end Child

/-- The children that have not been collected, oldest first. -/
abbrev Children := List Child

namespace Children

/-- The child with a process id. -/
def find? (cs : Children) (pid : Pid) : Option Child :=
  List.find? (·.pid == pid) cs

/-- Changes the child with a process id. -/
def modify (cs : Children) (pid : Pid) (f : Child → Child) : Children :=
  cs.map fun c => if c.pid = pid then f c else c

/-- Takes a child out of the table. -/
def collect (cs : Children) (pid : Pid) : Children :=
  cs.filter (·.pid != pid)

/-- The dead children, oldest first. -/
def dead (cs : Children) : List (Pid × Termination) :=
  cs.filterMap fun c =>
    match c.state with
    | .dead how => some (c.pid, how)
    | _ => none

/-- The children that are not dead. -/
def alive (cs : Children) : List Pid :=
  cs.filterMap fun c => if c.isDead then none else some c.pid

end Children

end JobShell
