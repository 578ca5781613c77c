import JobShell.Error
import JobShell.Text.Words
import JobShell.Text.Expansion

/-!
# Commands

A line is cut into words, `$$` is expanded in each, and the words become a command: the words after
`<` and `>` are redirections, of which the last of each kind counts, and the others are arguments,
of which only as many are kept as the limit allows. A trailing `&` among the kept arguments is
dropped and asks for background execution, unless foreground-only mode is on. A line whose first
word starts with `#` is a comment: its words are kept as they are.
-/

namespace JobShell

/-- What a parser of lines needs to know of the shell. -/
structure Context where
  foregroundOnly : Bool
  maxArgs : Nat
  pid : Int
  deriving DecidableEq, Repr

/-- One line of input, taken apart. -/
structure Command where
  argv : List String := []
  input : Option String := none
  output : Option String := none
  background : Bool := false
  deriving DecidableEq, Repr

namespace Command

/-- The word before the path of an input redirection. -/
def inputMarker : String := "<"

/-- The word before the path of an output redirection. -/
def outputMarker : String := ">"

/-- The last argument of a command that is to run in the background. -/
def backgroundMarker : String := "&"

/-- Whether a word starts a comment. -/
def startsComment (word : String) : Bool :=
  word.toList.head? == some '#'

/-- The words of a line. -/
def tokens (line : String) : List String :=
  (Text.words Text.isBlank line.toList).map String.ofList

/-- Whether the line is a comment. -/
def isCommentLine (line : String) : Bool :=
  (tokens line).head?.any startsComment

/-- Adds an argument unless `maxArgs` are there already. -/
def addArgument (maxArgs : Nat) (c : Command) (word : String) : Command :=
  if c.argv.length < maxArgs then { c with argv := c.argv ++ [word] } else c

/-- Adds the words of a line to a command: arguments, and redirections with their paths. -/
def addTokens (maxArgs : Nat) : Command → List String → Except ShellError Command
  | c, [] => .ok c
  | c, word :: rest =>
    if word = inputMarker then
      match rest with
      | [] => .error (.missingTarget inputMarker)
      | path :: rest => addTokens maxArgs { c with input := some path } rest
    else if word = outputMarker then
      match rest with
      | [] => .error (.missingTarget outputMarker)
      | path :: rest => addTokens maxArgs { c with output := some path } rest
    else addTokens maxArgs (addArgument maxArgs c word) rest

/-- Takes a trailing `&` off the arguments; it counts unless foreground-only mode is on. -/
def takeMarker (foregroundOnly : Bool) (c : Command) : Command :=
  if c.argv.getLast? = some backgroundMarker then
    { c with argv := c.argv.dropLast, background := !foregroundOnly }
  else c

/-- The command that a line stands for. -/
def parse (ctx : Context) (line : String) : Except ShellError Command :=
  if isCommentLine line then .ok { argv := tokens line }
  else do
    let c ← addTokens ctx.maxArgs {} ((tokens line).map (Text.expandPid ctx.pid))
    return takeMarker ctx.foregroundOnly c

/-- The name of the program, empty for a blank line. -/
def program (c : Command) : String :=
  c.argv.head?.getD ""

/-- The arguments after the name of the program. -/
def args (c : Command) : List String :=
  c.argv.tail

def isBlank (c : Command) : Bool :=
  c.argv.isEmpty

def isComment (c : Command) : Bool :=
  startsComment c.program

/-- Whether a word can be handed to a program: it must not hold the character NUL. -/
def isPassable (word : String) : Bool :=
  !word.toList.contains '\x00'

/-- The arguments for a program, all of them passable. -/
def programArgv (c : Command) : Except ShellError (List String) :=
  match c.argv.find? (!isPassable ·) with
  | some word => .error (.invalidArgument word)
  | none => .ok c.argv

end Command

end JobShell
