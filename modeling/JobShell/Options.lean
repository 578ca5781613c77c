/-!
# Shell options

The prompt, the number of background jobs that the shell keeps track of, the number of arguments of
a command that it keeps, and the length of a line in bytes that it accepts.
-/

namespace JobShell

/-- The options of a shell. -/
structure Options where
  prompt : String := ": "
  maxJobs : Nat := 10
  maxArgs : Nat := 512
  maxLine : Nat := 2048
  deriving DecidableEq, Repr

end JobShell
