import JobShell.Session

/-!
# Leaving

When the shell leaves it ends the jobs in its table, slot by slot: each is sent the signal to
terminate and waited for before the next one's turn. A job that is no longer there is passed over. A
stopped job does not act on the signal, and the shell waits for it for ever.
-/

namespace JobShell.Session

/-- A job that has been sent the signal to terminate. -/
def terminate (s : Session) (pid : Pid) : Session :=
  (s.record (.sent pid Signal.terminate)).signalChild pid Signal.terminate

/-- Ends a job and waits for it. The flag is false if the job does not end. -/
def endJob (s : Session) (pid : Pid) : Session × Bool :=
  match s.machine.children.find? pid with
  | none => (s, true)
  | some _ =>
    let s := (s.record (.sent pid Signal.terminate)).signalChild pid Signal.terminate
    match s.machine.children.find? pid with
    | some { state := .dead _, .. } => (s.collect pid, true)
    | _ => (s, false)

/-- Ends jobs one after the other, up to one that does not end. -/
def endJobs : List Pid → Session → Session × Option Pid
  | [], s => (s, none)
  | pid :: rest, s =>
    match (s.untrack pid).endJob pid with
    | (s, true) => endJobs rest s
    | (s, false) => (s, some pid)

/-- Ends every job in the table. -/
def shutdown (s : Session) : Session × Option Pid :=
  endJobs s.jobs.toList s

end JobShell.Session
