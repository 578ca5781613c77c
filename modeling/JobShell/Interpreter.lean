import JobShell.Execution
import JobShell.Input
import JobShell.Reaper
import JobShell.Shutdown

/-!
# The main loop

Line by line: the notices that were held back, the prompt, a line, its command, the report on its
error if it has one, and a pass of the reaper. `exit` and the end of input end the loop; the jobs in
the table are ended then. A round whose notices or prompt are refused by the output reads nothing, and
the next round begins where it has begun; so the loop may go on for ever, and `advanceOn` takes it one
round further. Over an output that takes everything each round reads: `run` takes its input from
outside then, `runShared` from standard input, which the children can read as well.
-/

namespace JobShell

/-- How a session ends. -/
inductive Ending where
  | returned (code : Int)
  /-- The shell waits for ever for a child that does not end. -/
  | stuck (pid : Pid)
  deriving DecidableEq, Repr

namespace Session

/-- Shows the notices that were held back, up to the first one that the output refuses. -/
def showNoticesOn (out : Output) (s : Session) : Session × Outcome :=
  match s.flags.takeNotices with
  | (flags, notices) => ({ s with flags }).sayAllOn out (notices.map Message.notice)

/-- What comes before a read: the notices that were held back, and the prompt. -/
def openOn (out : Output) (s : Session) : Session × Outcome :=
  match s.showNoticesOn out with
  | (s, .ok) => s.sayOn out (.prompt s.options.prompt)
  | failed => failed

/-- Waits for input while events happen. -/
def await (s : Session) (events : List Event) : Session :=
  (s.record .awaiting).applyAll events

/-- Handles a line. -/
def handleLineOn (out : Output) (env : Environment) (line : String) (meanwhile : List Event)
    (s : Session) : Session × Outcome :=
  match Command.parse (s.context env) line with
  | .error e => (s, .error e)
  | .ok c => s.dispatchOn out env c meanwhile

/-- Handles a piece of input. -/
def handlePieceOn (out : Output) (env : Environment) (piece : Bytes) (meanwhile : List Event)
    (s : Session) : Session × Outcome :=
  match Line.accept s.options piece with
  | .error e => (s, .error e)
  | .ok line => s.handleLineOn out env line meanwhile

/-- Waits for a piece of input and handles it. -/
def readOn (out : Output) (env : Environment) (r : Reading) (s : Session) : Session × Outcome :=
  let s := r.waits.foldl await s
  match r.piece with
  | none => (s, .error (.exit 0))
  | some piece => (s.record (.taken piece)).handlePieceOn out env piece r.meanwhile

/-- One round of the loop up to the reaper. -/
def stepOn (out : Output) (env : Environment) (r : Reading) (s : Session) : Session × Outcome :=
  match s.openOn out with
  | (s, .ok) => s.readOn out env r
  | failed => failed

/-- Leaves with a code. -/
def leave (code : Int) (s : Session) : Session × Ending :=
  match s.shutdown with
  | (s, none) => (s, .returned code)
  | (s, some pid) => (s, .stuck pid)

/-- One whole round of the loop, and how it ends the loop if it does. -/
def roundOn (out : Output) (env : Environment) (r : Reading) (s : Session) :
    Session × Option Ending :=
  match s.stepOn out env r with
  | (s, .ok) => (s.afterLineOn out [] [], none)
  | (s, .error (.exit code)) => ((s.leave code).1, some (s.leave code).2)
  | (s, .error e) => ((s.reportOn out e).afterLineOn out [] [], none)
  | (s, .stuck pid) => (s, some (.stuck pid))

end Session

/-- How far the loop has come. -/
inductive LoopState where
  /-- It is between two rounds, with these reads to come; after the last of them comes the end of
  input. -/
  | going (s : Session) (reads : List Reading)
  | ended (s : Session) (ending : Ending)

/-- The session that the loop has come to, and how it has ended if it has. -/
def LoopState.now : LoopState → Session × Option Ending
  | .going s _ => (s, none)
  | .ended s ending => (s, some ending)

namespace Session

/-- Takes the loop one round further. A round that comes to nothing before it reads leaves its read to
the next one. -/
def advanceOn (out : Output) (env : Environment) : LoopState → LoopState
  | .going s [] => .ended (s.leave 0).1 (s.leave 0).2
  | .going s (r :: rs) =>
    match s.roundOn out env r with
    | (t, none) => .going t (if (s.openOn out).2 = .ok then rs else r :: rs)
    | (t, some ending) => .ended t ending
  | .ended s ending => .ended s ending

/-! ## Over an output that takes everything -/

/-- Shows the notices that were held back. -/
def showNotices (s : Session) : Session :=
  (s.showNoticesOn .sound).1

/-- A session that has shown its prompt and has waited for its line. -/
def prompted (waits : List (List Event)) (s : Session) : Session :=
  waits.foldl await (s.showNotices.say (.prompt s.options.prompt))

/-- Handles a line. -/
def handleLine (env : Environment) (line : String) (meanwhile : List Event) (s : Session) :
    Session × Outcome :=
  s.handleLineOn .sound env line meanwhile

/-- Handles a piece of input. -/
def handlePiece (env : Environment) (piece : Bytes) (meanwhile : List Event) (s : Session) :
    Session × Outcome :=
  s.handlePieceOn .sound env piece meanwhile

/-- One round of the loop up to the reaper. -/
def step (env : Environment) (r : Reading) (s : Session) : Session × Outcome :=
  s.stepOn .sound env r

/-- The session when a line is done and its error, if it has one, has been reported. -/
def lineDone (env : Environment) (r : Reading) (s : Session) : Session :=
  match s.step env r with
  | (s, .error e) => s.report e
  | (s, _) => s

/-- One whole round of the loop, and how it ends the loop if it does. -/
def round (env : Environment) (r : Reading) (s : Session) : Session × Option Ending :=
  s.roundOn .sound env r

/-- Runs the loop over reads of lines; after the last of them comes the end of input. -/
def listen (env : Environment) : List Reading → Session → Session × Ending
  | [], s => s.leave 0
  | r :: rs, s =>
    match s.round env r with
    | (s, none) => listen env rs s
    | (s, some ending) => (s, ending)

/-- Runs a session over input. -/
def run (env : Environment) (arrivals : List Arrival) (s : Session) : Session × Ending :=
  s.listen env (Input.readings arrivals)

/-! ## Input that is shared with the children -/

/-- Reads from standard input. -/
def readInput (s : Session) (limit : Option Nat) : Session × Bytes :=
  match s.machine.readFrom s.descriptors standardInput limit with
  | (machine, data) => ({ s with machine }, data.getD [])

/-- Reads a block of standard input for each wait of a read. The answer is whether there was
anything to read where it was needed. -/
def supply (s : Session) (r : Reading) : Session × Bool :=
  if r.waits.isEmpty then (s, true)
  else match s.readInput (some (r.waits.length * Input.blockSize)) with
    | (s, data) => (s, !data.isEmpty)

/-- Runs the loop over reads of lines from standard input. A child may have read all of it that the
shell has not read yet; then the input ends with what the shell holds. -/
def listenShared (env : Environment) : List Reading → Session → Session × Ending
  | [], s => s.leave 0
  | r :: rs, s =>
    match s.supply r with
    | (s, false) => s.listen env (Input.atEnd r.waits r.held r.held)
    | (s, true) =>
      match s.round env r with
      | (s, none) => listenShared env rs s
      | (s, some ending) => (s, ending)

/-- Runs a session over its standard input. -/
def runShared (env : Environment) (s : Session) : Session × Ending :=
  s.listenShared env (Input.readings (Input.blocks (s.readInput none).2))

/-! ## Where runs come to -/

/-- The sessions that a run goes through between its rounds. -/
inductive Reaches (env : Environment) (start : Session) : Session → Prop
  | refl : Reaches env start start
  /-- Standard input is read. -/
  | supply {s : Session} (r : Reading) : Reaches env start s → Reaches env start (s.supply r).1
  | round {s : Session} (r : Reading) : Reaches env start s → (s.round env r).2 = none →
    Reaches env start (s.round env r).1

/-- A session that shows a prompt, or waits for the line after it. -/
def AtPrompt (env : Environment) (start p : Session) : Prop :=
  ∃ s waits, Reaches env start s ∧ p = s.prompted waits

/-- The shell leaves from the session `m`. -/
inductive Leaves (env : Environment) (s : Session) : Session → Int → Prop
  /-- There is nothing more to read. -/
  | input : Leaves env s s 0
  /-- It is asked to, or meets the end of input at a prompt. -/
  | step (r : Reading) {m : Session} {code : Int} :
    s.step env r = (m, .error (.exit code)) → Leaves env s m code

/-- How a run that has come to `s` ends. -/
inductive Ends (env : Environment) (s : Session) : Session → Ending → Prop
  | left {m : Session} {code : Int} : Leaves env s m code →
    Ends env s (m.leave code).1 (m.leave code).2
  /-- A foreground command does not end. -/
  | stuck (r : Reading) {final : Session} {pid : Pid} : s.step env r = (final, .stuck pid) →
    Ends env s final (.stuck pid)

end Session

end JobShell
