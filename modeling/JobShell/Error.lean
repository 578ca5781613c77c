import JobShell.Errno

/-!
# What can go wrong with a line

Each line of input is handled or ends in one `ShellError`. All but `exit` are reported and the
shell goes on with the next line; `exit` carries the exit code up to the main loop. A path that
`cd` cannot enter is reported like a result, on standard output; the others go to standard error.
-/

namespace JobShell

/-- Why the handling of a line stopped. -/
inductive ShellError where
  | io (detail : String)
  | system (errno : Errno)
  | forkFailed (errno : Errno)
  | invalidPath (path : String)
  | homeUnset
  | missingTarget (marker : String)
  | lineTooLong (limit : Nat)
  | invalidArgument (argument : String)
  | config (detail : String)
  | exit (code : Int)
  deriving DecidableEq, Repr

namespace ShellError

/-- The text of an error. -/
def message : ShellError → String
  | .io detail => "I/O Error: " ++ detail
  | .system errno => "ERRNO: " ++ errno.description
  | .forkFailed _ => "Failed to fork child process"
  | .invalidPath path => "Invalid path " ++ path
  | .homeUnset => "Failed to change directory to HOME environment variable."
  | .missingTarget marker => "missing redirection target after '" ++ marker ++ "'"
  | .lineTooLong limit => "input line exceeds " ++ toString limit ++ " characters"
  | .invalidArgument argument => "invalid argument: " ++ argument
  | .config detail => "Config Error: " ++ detail
  | .exit _ => ""

/-- Whether an error is reported on standard output. -/
def onStdout : ShellError → Bool
  | .invalidPath _ => true
  | _ => false

end ShellError

end JobShell
