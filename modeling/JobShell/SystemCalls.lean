import JobShell.Execution
import JobShell.Shutdown

/-!
# Calls that signal a child and wait for it

The system may refuse to deliver a signal. It may also answer a wait before the child has ended: the
wait was interrupted, or reports another change, and the shell waits again. So a wait for the end of
a child takes the answers one after the other up to the first that concludes it. Where the answers
run out the shell is waiting still.

What the system answers is not fixed here. `Session.awaitUnder` waits for a foreground child, and
`JobTable.shutDown` ends the jobs in a table, whatever the answers are. The machine in `Session`
never interrupts a wait: `Session.waitAnswers` is what it answers to one, and `Session.answering` what
it answers when jobs are ended.
-/

namespace JobShell

/-- What a wait for a child comes back with. -/
abbrev WaitResult := Except Errno WaitStatus

namespace WaitResult

/-- What a wait tells of the end of the child. After a wait that tells nothing the shell waits
again. -/
def conclusion? : WaitResult → Option (Except Errno Termination)
  | .ok status => status.termination?.map .ok
  | .error e => if e = .interrupted then none else some (.error e)

end WaitResult

/-- Waits for the end of a child. There is none yet if no answer concludes the wait. -/
def awaitEnd (answers : List WaitResult) : Option (Except Errno Termination) :=
  answers.findSome? WaitResult.conclusion?

/-! ## Waiting for a foreground child -/

/-- The status by which a wait reports an end. -/
def Termination.status : Termination → WaitStatus
  | .exited code => .exited code
  | .signaled signal => .signaled signal false

namespace Session

/-- A wait takes a child out of the table of children if it has ended, also if the end cannot be
decoded. A wait that fails otherwise leaves it there. -/
def release (s : Session) (pid : Pid) : Except Errno Termination → Session
  | .ok _ => s.collect pid
  | .error e => if e = .invalidArgument then s.collect pid else s

/-- Waits for a foreground child. `answers` is what the system answers. -/
def awaitUnder (answers : Session → Pid → List WaitResult) (s : Session) (pid : Pid) :
    Session × Outcome :=
  match awaitEnd (answers s pid) with
  | none => (s, .stuck pid)
  | some result => (((s.release pid result).untrack pid).setWaiting false).noteEnd result

/-- Runs a foreground command in a child, whatever the system answers to the waits for it. -/
def runForeground (answers : Session → Pid → List WaitResult) (env : Environment) (c : Command)
    (meanwhile : List Event) (s : Session) : Session × Outcome :=
  match c.programArgv with
  | .error e => (s, .error e)
  | .ok argv =>
    if s.refusesProcesses env then
      ((s.setWaiting true).setWaiting false, .error (.forkFailed .tryAgain))
    else ((s.setWaiting true).attend env c argv meanwhile).awaitUnder answers s.newPid

/-- What the machine answers: how the child has ended, or nothing, for a child that is not dead
stays as it is. -/
def waitAnswers (s : Session) (pid : Pid) : List WaitResult :=
  match s.machine.children.find? pid with
  | some { state := .dead how, .. } => [how.decode.map Termination.status]
  | _ => []

end Session

/-! ## Ending jobs -/

/-- A call that has come back. -/
inductive Call where
  | kill (pid : Pid) (signal : Signal) (result : Except Errno Unit)
  | wait (pid : Pid) (result : WaitResult)

/-- What the system answers while the shell ends a job: to the signal, and to one wait after the
other. -/
structure Answers where
  kill : Except Errno Unit
  waits : List WaitResult

/-- What the system answers for a job when some calls have come back already. -/
abbrev System := List Call → Pid → Answers

/-- Makes calls. If one does not come back, the error is the process id it waits for. -/
abbrev Calling := EStateM Pid (List Call)

/-- Takes note of a call that has come back. -/
def Calling.made (call : Call) : Calling Unit :=
  modify (· ++ [call])

/-- Waits for a job until the wait is concluded. -/
def awaitJob (pid : Pid) : List WaitResult → Calling Unit
  | [] => throw pid
  | result :: results => do
    Calling.made (.wait pid result)
    if result.conclusion?.isNone then awaitJob pid results

/-- Sends a job the signal to terminate, and waits for it if that was possible. -/
def endJob (system : System) (pid : Pid) : Calling Unit := do
  let answers := system (← get) pid
  Calling.made (.kill pid Signal.terminate answers.kill)
  match answers.kill with
  | .ok () => awaitJob pid answers.waits
  | .error _ => return

namespace JobTable

/-- Ends every job in the table. Next to the calls stands the table left behind, or the job that the
shell is waiting for still. -/
def shutDown (system : System) (t : JobTable) : List Call × Except Pid JobTable :=
  match (t.forEach (endJob system)).run [] with
  | .ok t calls => (calls, .ok t)
  | .error pid calls => (calls, .error pid)

end JobTable

namespace Session

/-! ## The machine as the system -/

/-- What the machine answers for a job. A job that is there can be sent the signal. -/
def jobAnswers (s : Session) (pid : Pid) : Answers :=
  match s.stateOf pid with
  | none => ⟨.error .noSuchProcess, []⟩
  | some _ => ⟨.ok (), (s.terminate pid).waitAnswers pid⟩

/-- The session after a call to end a job. The slot of the job is freed before the signal. -/
def undergo (s : Session) : Call → Session
  | .kill pid _ (.error _) => s.untrack pid
  | .kill pid signal (.ok ()) => ((s.untrack pid).record (.sent pid signal)).signalChild pid signal
  | .wait pid result =>
    match result.conclusion? with
    | none => s
    | some told => s.release pid told

/-- The session after calls, one after the other. -/
def afterCalls (s : Session) (calls : List Call) : Session :=
  calls.foldl undergo s

/-- What the machine of a session answers after some calls. -/
def answering (s : Session) : System := fun calls pid =>
  ((s.afterCalls calls).untrack pid).jobAnswers pid

end Session

end JobShell
