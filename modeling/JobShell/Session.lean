import JobShell.Command
import JobShell.Machine
import JobShell.Options
import JobShell.Output

/-!
# A running shell

`Session` is the shell together with the machine it runs on, `Environment` what stays the same while
it runs. `Event` is what can happen to them from outside: a signal reaches the shell, a background
job ends, is killed, stopped or continued, or the system runs out of processes. The signals that reach
the shell are those that it has set itself up for; another one would end it, or do nothing to it.
-/

namespace JobShell

/-- What stays the same while a shell runs. -/
structure Environment where
  /-- The shell's process id. -/
  pid : Pid
  /-- The shell is run by the superuser, who may exceed the limit on processes. -/
  superuser : Bool
  /-- The disposition for broken pipes, which the shell leaves as it has found it. Its runtime has them
  ignored as a rule. -/
  brokenPipe : Disposition
  /-- The home directory, if one is set. -/
  home : Option String
  /-- The programs that are found by name. -/
  programs : String → Option Image

/-- A running shell and its machine. -/
structure Session where
  options : Options
  jobs : JobTable
  lastStatus : Termination
  flags : SignalFlags
  /-- The shell's own descriptors, which its children inherit. -/
  descriptors : Descriptors
  machine : Machine
  deriving Repr

/-- How the handling of a line, or a part of it, comes out. -/
inductive Outcome where
  | ok
  | error (error : ShellError)
  /-- The shell waits for ever for a child that does not end. -/
  | stuck (pid : Pid)
  deriving DecidableEq, Repr

/-- Something that happens from outside. Background jobs are numbered from 1 in the order of their
announcements. -/
inductive Event where
  /-- The shell receives a signal. -/
  | signal (n : ShellSignal)
  /-- A job exits. -/
  | finish (job : Nat) (code : Int)
  /-- A job is killed by a signal. -/
  | kill (job : Nat) (n : Signal)
  /-- A job is sent a signal and does with it what it does by its dispositions. -/
  | poke (job : Nat) (n : Signal)
  /-- A job that has been sent a signal to stop comes to its stop. -/
  | halt (job : Nat)
  /-- The system has no more processes for unprivileged users, or has them again. -/
  | exhaust (on : Bool)
  deriving DecidableEq, Repr

namespace Session

/-- A new shell with the given options on a machine. -/
def new (options : Options) (descriptors : Descriptors) (machine : Machine) : Session where
  options
  jobs := .empty options.maxJobs
  lastStatus := .success
  flags := {}
  descriptors
  machine

/-- A shell before anything has happened. -/
def initial (options : Options) (tree : FileTree) (cwd : Place) (nextPid : Pid)
    (input : Bytes) : Session :=
  new options .standard (Machine.start tree cwd nextPid input)

/-- What a parser of lines needs to know of the shell now. -/
def context (s : Session) (env : Environment) : Context where
  foregroundOnly := s.flags.foregroundOnly
  maxArgs := s.options.maxArgs
  pid := env.pid

def record (s : Session) (entry : Entry) : Session :=
  { s with machine := s.machine.record entry }

/-- The shell says something. -/
def say (s : Session) (message : Message) : Session :=
  s.record (.said message)

def sayAll (s : Session) (messages : List Message) : Session :=
  messages.foldl say s

/-- The main loop writes a message to an output. -/
def sayOn (out : Output) (s : Session) (message : Message) : Session × Outcome :=
  match out.refuses s.machine.transcript message with
  | none => (s.say message, .ok)
  | some detail => (s, .error (.io detail))

/-- The main loop writes messages, up to the first one that the output refuses. -/
def sayAllOn (out : Output) : List Message → Session → Session × Outcome
  | [], s => (s, .ok)
  | message :: messages, s =>
    match s.sayOn out message with
    | (s, .ok) => sayAllOn out messages s
    | failed => failed

/-- The report on an error. If it goes to the output and is refused there, that is the end of it. -/
def reportOn (out : Output) (s : Session) (error : ShellError) : Session :=
  if error.onStdout then (s.sayOn out (.failure error)).1 else s.say (.failure error)

/-- The report on an error, to an output that takes everything. -/
def report (s : Session) (error : ShellError) : Session :=
  s.say (.failure error)

/-! ## Signals -/

/-- The shell flips the mode and announces it, followed by the prompt, unless it is waiting for a
foreground command. -/
def toggleMode (s : Session) : Session :=
  match s.flags.toggle with
  | (flags, none) => { s with flags }
  | (flags, some notice) =>
    ({ s with flags }).sayAll [.notice notice, .prompt s.options.prompt]

/-- The shell receives a signal. -/
def receive (s : Session) (n : ShellSignal) : Session :=
  let s := s.record (.received n.number)
  match n with
  | .interrupt => s
  | .childEnded => { s with flags := s.flags.noteChildEnded }
  | .terminalStop => s.toggleMode

/-- The death of a child, if its new state is that. -/
def recordDeath (s : Session) (pid : Pid) : ChildState → Session
  | .dead how => s.record (.died pid how)
  | _ => s

/-- Changes the state of a child. The shell is told whenever the state is another than before. -/
def changeChild (s : Session) (pid : Pid) (change : Child → Child) : Session :=
  match s.machine.children.find? pid with
  | none => s
  | some child =>
    let changed :=
      { s with machine := { s.machine with children := s.machine.children.modify pid change } }
    let state := (change child).state
    if state = child.state then changed
    else (changed.recordDeath pid state).receive .childEnded

/-- A child ends, unless it is dead already. -/
def endChild (s : Session) (pid : Pid) (how : Termination) : Session :=
  s.changeChild pid fun c => if c.isDead then c else { c with state := .dead how }

/-- A child is sent a signal. -/
def signalChild (s : Session) (pid : Pid) (n : Signal) : Session :=
  s.changeChild pid (Child.receive n)

/-- The process ids of the children that have not been collected. -/
def pids (s : Session) : List Pid :=
  s.machine.children.map (·.pid)

/-- The state of the child with a process id. -/
def stateOf (s : Session) (pid : Pid) : Option ChildState :=
  (s.machine.children.find? pid).map (·.state)

/-- Takes a child out of the table of children. -/
def collect (s : Session) (pid : Pid) : Session :=
  { s with machine := { s.machine with
      children := s.machine.children.collect pid } }.record (.collected pid)

def untrack (s : Session) (pid : Pid) : Session :=
  { s with jobs := s.jobs.untrack pid }

/-! ## Events -/

/-- Does something to the background job of a number, if there is one. -/
def onJob (s : Session) (job : Nat) (action : Pid → Session) : Session :=
  match s.machine.transcript.job? job with
  | some pid => action pid
  | none => s

/-- The state after an event. -/
def apply (s : Session) : Event → Session
  | .signal n => s.receive n
  | .finish job code => s.onJob job fun pid => s.endChild pid (.exited (code % 256))
  | .kill job n => s.onJob job fun pid => s.endChild pid (.signaled n)
  | .poke job n => s.onJob job fun pid => s.signalChild pid n
  | .halt job => s.onJob job fun pid => s.changeChild pid Child.halt
  | .exhaust on => { s with machine := { s.machine with exhausted := on } }

/-- The state after events, one after the other. -/
def applyAll (s : Session) (events : List Event) : Session :=
  events.foldl apply s

end Session

end JobShell
