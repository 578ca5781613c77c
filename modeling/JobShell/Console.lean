import JobShell.Line

/-!
# Reading at a console

Each read of a line shows the prompt first, whatever comes of it.
-/

namespace JobShell

/-- What comes of the read of a line: the line, nothing at the end of input, or why the piece of
input that was next is refused. -/
abbrev LineResult := Except ShellError (Option String)

/-- The input that has not been read yet, and all that has been shown. -/
structure Console where
  input : Bytes
  shown : String := ""
  deriving DecidableEq, Repr

namespace Console

/-- Shows the prompt and reads a line. -/
def readLine (options : Options) (c : Console) : LineResult × Console :=
  match Line.read options c.input with
  | (result, input) => (result, { input, shown := c.shown ++ options.prompt })

/-- Reads lines, one after the other. -/
def readLines (options : Options) : Nat → Console → List LineResult × Console
  | 0, c => ([], c)
  | n + 1, c =>
    match c.readLine options with
    | (result, c) =>
      match readLines options n c with
      | (results, c) => (result :: results, c)

end Console

end JobShell
