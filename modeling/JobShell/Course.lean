import JobShell.Interpreter
import Mathlib.Data.List.Infix

/-!
# The course of a run

A run goes from prompt to prompt until the loop ends, and then the jobs in the table are ended. What
it goes through before that is its `Course`.
-/

namespace JobShell.Session

/-- How the loop ends. -/
inductive Halt where
  /-- With a code, and with the jobs in the table still to be ended. -/
  | left (code : Int)
  /-- The shell waits for ever for a child that does not end. -/
  | stuck (pid : Pid)
  deriving DecidableEq, Repr

/-- What a run goes through before the jobs in the table are ended. -/
structure Course where
  /-- The session at each prompt, from the moment when the prompt is shown until the line is there. -/
  prompts : List Session
  /-- The session in which the loop ends. -/
  last : Session
  halt : Halt

/-- The session at a prompt, after each of the waits for a line. -/
def atPrompt (r : Reading) (s : Session) : List Session :=
  r.waits.inits.map fun waits => s.prompted waits

/-- The course of a run that reads `r` next, where `next` is what comes after the round. -/
def follow (env : Environment) (r : Reading) (next : Session → Course) (s : Session) : Course :=
  match s.step env r with
  | (m, .error (.exit code)) => ⟨s.atPrompt r, m, .left code⟩
  | (m, .stuck pid) => ⟨s.atPrompt r, m, .stuck pid⟩
  | (m, .ok) => { next m.afterLine with prompts := s.atPrompt r ++ (next m.afterLine).prompts }
  | (m, .error e) =>
    { next (m.report e).afterLine with
      prompts := s.atPrompt r ++ (next (m.report e).afterLine).prompts }

/-- The course of a run over reads of lines. -/
def course (env : Environment) : List Reading → Session → Course
  | [], s => ⟨[], s, .left 0⟩
  | r :: rs, s => s.follow env r fun s => course env rs s

/-- The course of a run over reads of lines from standard input. -/
def courseShared (env : Environment) : List Reading → Session → Course
  | [], s => ⟨[], s, .left 0⟩
  | r :: rs, s =>
    match s.supply r with
    | (s, false) => s.course env (Input.atEnd r.waits r.held r.held)
    | (s, true) => s.follow env r fun s => courseShared env rs s

/-- The end of a run: the jobs in the table are ended. -/
def Course.close (c : Course) : Session × Ending :=
  match c.halt with
  | .left code => c.last.leave code
  | .stuck pid => (c.last, .stuck pid)

end JobShell.Session
