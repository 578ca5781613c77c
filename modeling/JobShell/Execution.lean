import JobShell.Builtin
import JobShell.Launch

/-!
# Carrying out a command

Blank lines and comments do nothing, built-in commands run in the shell, and every other command
runs in a child. A background child is announced and left to the reaper. A foreground child is
waited for, and how it ended becomes the last status; for the time of the wait it is in the job
table, if there is room, and notices are held back.
-/

namespace JobShell

namespace Session

/-! ## New processes -/

/-- Whether the system refuses to make a process. -/
def refusesProcesses (s : Session) (env : Environment) : Bool :=
  s.machine.exhausted && !env.superuser

/-- The process id of the next child. -/
abbrev newPid (s : Session) : Pid :=
  s.machine.nextPid

/-- Adds a child that is running. -/
def addChild (s : Session) (own : Dispositions) (background : Bool) : Session × Pid :=
  let pid := s.newPid
  let child := { pid, dispositions := own, descriptors := s.descriptors, state := .running }
  let children := s.machine.children ++ [child]
  ({ s with machine := { s.machine with
      children, nextPid := pid + 1 } }.record (.forked pid background), pid)

def setWaiting (s : Session) (waiting : Bool) : Session :=
  { s with flags := s.flags.setWaiting waiting }

def track (s : Session) (pid : Pid) : Session :=
  { s with jobs := (s.jobs.track pid).1 }

/-! ## The parent side -/

/-- Waits for a child and collects it. The outcome is `stuck` if the child is not dead, for nothing
more will happen to it; the end is an error if it cannot be decoded. -/
def waitFor (s : Session) (pid : Pid) : Session × Option (Except Errno Termination) :=
  match s.machine.children.find? pid with
  | some { state := .dead how, .. } => (s.collect pid, some how.decode)
  | _ => (s, none)

/-- Takes note of how a foreground child ended. -/
def noteEndOn (out : Output) (s : Session) : Except Errno Termination → Session × Outcome
  | .error e => (s, .error (.system e))
  | .ok (.exited code) => ({ s with lastStatus := .exited code }, .ok)
  | .ok (.signaled n) =>
    match s.sayOn out (.interrupted (.signaled n)) with
    | (s, .ok) => ({ s with lastStatus := .signaled n }, .ok)
    | failed => failed

/-- Waits for a foreground child. -/
def awaitForegroundOn (out : Output) (s : Session) (pid : Pid) : Session × Outcome :=
  match s.waitFor pid with
  | (s, none) => (s, .stuck pid)
  | (s, some result) => ((s.untrack pid).setWaiting false).noteEndOn out result

/-- A child of a command whose arguments are `argv`, made and run. -/
def bear (env : Environment) (c : Command) (argv : List String) (s : Session) :
    Session × Descriptors × ChildState :=
  Launch.runChild env c argv (s.addChild (Launch.dispositions env c) c.background).1

/-- A child that has run comes to the shell's notice. -/
def settle (s : Session) (pid : Pid) (descriptors : Descriptors) (state : ChildState) : Session :=
  s.changeChild pid fun child => { child with descriptors, state }

/-- The session in which a child has been made and has run, is in the job table if there is room,
and has come to the shell's notice after what happened meanwhile. -/
def attend (env : Environment) (c : Command) (argv : List String) (meanwhile : List Event)
    (s : Session) : Session :=
  (((bear env c argv s).1.track s.newPid).applyAll meanwhile).settle s.newPid
    (bear env c argv s).2.1 (bear env c argv s).2.2

/-- Makes a child, runs it, and announces it or waits for it. -/
def carryOutOn (out : Output) (env : Environment) (c : Command) (argv : List String)
    (meanwhile : List Event) (s : Session) : Session × Outcome :=
  match bear env c argv s with
  | (ran, descriptors, state) =>
    if c.background then
      ((ran.settle s.newPid descriptors state).track s.newPid).sayOn out (.started s.newPid)
    else
      (((ran.track s.newPid).applyAll meanwhile).settle s.newPid descriptors state).awaitForegroundOn
        out s.newPid

/-- Runs a command in a child. `meanwhile` is what happens from outside while the shell waits for
it in the foreground. -/
def spawnOn (out : Output) (env : Environment) (c : Command) (meanwhile : List Event) (s : Session) :
    Session × Outcome :=
  match c.programArgv, out.refusesFlush s.machine.transcript with
  | .error e, _ => (s, .error e)
  | .ok _, some detail => (s, .error (.io detail))
  | .ok argv, none =>
    let s := if c.background then s else s.setWaiting true
    if s.refusesProcesses env then (s.setWaiting false, .error (.forkFailed .tryAgain))
    else s.carryOutOn out env c argv meanwhile

/-- Carries out a command. -/
def dispatchOn (out : Output) (env : Environment) (c : Command) (meanwhile : List Event)
    (s : Session) : Session × Outcome :=
  if c.isBlank || c.isComment then (s, .ok)
  else match Builtin.ofName? c.program with
    | some builtin => builtin.runOn out env c.args s
    | none => s.spawnOn out env c meanwhile

/-! ## Over an output that takes everything -/

/-- Takes note of how a foreground child ended. -/
def noteEnd (s : Session) (result : Except Errno Termination) : Session × Outcome :=
  s.noteEndOn .sound result

/-- Waits for a foreground child. -/
def awaitForeground (s : Session) (pid : Pid) : Session × Outcome :=
  s.awaitForegroundOn .sound pid

/-- Makes a child, runs it, and announces it or waits for it. -/
def carryOut (env : Environment) (c : Command) (argv : List String) (meanwhile : List Event)
    (s : Session) : Session × Outcome :=
  s.carryOutOn .sound env c argv meanwhile

/-- Runs a command in a child. -/
def spawn (env : Environment) (c : Command) (meanwhile : List Event) (s : Session) :
    Session × Outcome :=
  s.spawnOn .sound env c meanwhile

/-- Carries out a command. -/
def dispatch (env : Environment) (c : Command) (meanwhile : List Event) (s : Session) :
    Session × Outcome :=
  s.dispatchOn .sound env c meanwhile

end Session

end JobShell
