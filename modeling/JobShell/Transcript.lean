import JobShell.Error
import JobShell.JobTable
import JobShell.Mode
import JobShell.Termination
import JobShell.Text.Utf8

/-!
# The transcript

Everything that happens, in order. What appears on the shell's standard output and standard error
is there whether the shell, one of its signal handlers or a child wrote it. What the shell says is
kept as a `Message` and turned into text at the end, so the announcement of a background job and
the report on it can be told apart from the output of programs. Between the two stands what nobody
sees: the waits for input and the lines taken from it, signals, and the births and deaths of
children.
-/

namespace JobShell

/-- An output stream. -/
inductive Stream where
  | out
  | err
  deriving DecidableEq, Repr

/-- Something that the shell says. -/
inductive Message where
  /-- The prompt before a line is read. -/
  | prompt (shown : String)
  /-- A change of mode. -/
  | notice (change : ModeNotice)
  /-- The start of a background job. -/
  | started (pid : Pid)
  /-- The end of a background job. -/
  | done (pid : Pid) (how : Termination)
  /-- The end of a foreground command by a signal. -/
  | interrupted (how : Termination)
  /-- The last status, asked for. -/
  | status (last : Termination)
  /-- The report on an error. -/
  | failure (error : ShellError)
  deriving DecidableEq, Repr

namespace Message

/-- The text of a message, with process ids shown by `name`. -/
def text (name : Pid → String) : Message → String
  | .prompt shown => shown
  | .notice change => change.message
  | .started pid => "background pid is " ++ name pid ++ "\n"
  | .done pid how => "background pid " ++ name pid ++ " is done: " ++ how.outcomeText ++ "\n"
  | .interrupted how => how.statusText ++ "\n"
  | .status last => last.statusText ++ "\n"
  | .failure error => error.message ++ "\n"

/-- The stream that a message goes to. -/
def stream : Message → Stream
  | .failure error => if error.onStdout then .out else .err
  | _ => .out

end Message

/-- One entry of a transcript. -/
inductive Entry where
  /-- A message of the shell. -/
  | said (message : Message)
  /-- Bytes that a child wrote. -/
  | written (stream : Stream) (data : Bytes)
  /-- The shell starts to wait for input. -/
  | awaiting
  /-- The shell takes a piece of input as a line. -/
  | taken (piece : Bytes)
  /-- The shell receives a signal. -/
  | received (signal : Signal)
  /-- The shell makes a child, for the background or for the foreground. -/
  | forked (pid : Pid) (background : Bool)
  /-- A child dies. -/
  | died (pid : Pid) (how : Termination)
  /-- The shell collects a dead child. -/
  | collected (pid : Pid)
  /-- The shell sends a child a signal. -/
  | sent (pid : Pid) (signal : Signal)
  deriving DecidableEq, Repr

/-- What happened, in order. -/
abbrev Transcript := List Entry

namespace Entry

/-- The bytes of an entry on a stream. -/
def bytesOn (name : Pid → String) (stream : Stream) : Entry → Bytes
  | .said message => if message.stream = stream then Text.encode (message.text name) else []
  | .written s data => if s = stream then data else []
  | _ => []

/-- Whether an entry is the output of a child. -/
def isWritten : Entry → Bool
  | .written _ _ => true
  | _ => false

/-- The process id that an entry announces as a background job. -/
def started? : Entry → Option Pid
  | .said (.started pid) => some pid
  | _ => none

end Entry

namespace Transcript

/-- The bytes that appeared on a stream. -/
def bytesOn (name : Pid → String) (stream : Stream) (t : Transcript) : Bytes :=
  t.flatMap (Entry.bytesOn name stream)

/-- What appeared on a stream, as text. -/
def textOn (name : Pid → String) (stream : Stream) (t : Transcript) : String :=
  Text.display (t.bytesOn name stream)

/-- The background jobs in the order of their announcements. -/
def startedPids (t : Transcript) : List Pid :=
  t.filterMap Entry.started?

/-- The parts of a transcript between the points where the shell starts to wait for input. -/
def segments : Transcript → List Transcript
  | [] => [[]]
  | .awaiting :: es => [] :: segments es
  | e :: es =>
    match segments es with
    | s :: ss => (e :: s) :: ss
    | [] => [[e]]

/-- The number of a background job, counted from 1 in the order of the announcements. -/
def jobNumber? (t : Transcript) (pid : Pid) : Option Nat :=
  (t.startedPids.findIdx? (· == pid)).map (· + 1)

/-- The background job of a number. -/
def job? (t : Transcript) (n : Nat) : Option Pid :=
  match n with
  | 0 => none
  | n + 1 => t.startedPids[n]?

end Transcript

end JobShell
