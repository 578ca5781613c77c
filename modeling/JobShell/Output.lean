import JobShell.Transcript

/-!
# The output of the main loop

What the main loop writes to standard output may be refused: the other end of a pipe is closed, or
there is no room left. Then nothing of it appears, and the write comes to an error. An `Output` says
which writes are refused, by everything that has happened until then, so that it can refuse some and
take others later. What a signal handler or a child writes does not go through it.
-/

namespace JobShell

/-- How standard output takes what the main loop writes to it. -/
structure Output where
  /-- What is wrong with the write of a message, if it is refused. -/
  refuses : Transcript → Message → Option String
  /-- What is wrong with the flush before a child is made, if it is refused. -/
  refusesFlush : Transcript → Option String

/-- An output that takes everything. -/
def Output.sound : Output where
  refuses _ _ := none
  refusesFlush _ := none

end JobShell
