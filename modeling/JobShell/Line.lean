import JobShell.Error
import JobShell.Options
import JobShell.Text.Utf8
import JobShell.Text.Words

/-!
# Lines of input

Input is a sequence of bytes, cut into pieces that end at a newline or at the end of input. A piece
is accepted as a line if it is UTF-8 and, unless it is a comment, within the length limit. A piece
that is refused is passed over whole.
-/

namespace JobShell.Line

/-- The byte that ends a line. -/
def newline : UInt8 := 10

/-- The first piece of the input without its newline, and the input after it; nothing at the end of
input. -/
def split? : Bytes → Option (Bytes × Bytes)
  | [] => none
  | bytes => some (bytes.takeWhile (· != newline), (bytes.dropWhile (· != newline)).tail)

/-- Whether the first character of a text that is not white space starts a comment. -/
def isNote (text : String) : Bool :=
  (Text.trimStart text.toList).head? == some '#'

/-- The line that a piece of input stands for. -/
def accept (options : Options) (piece : Bytes) : Except ShellError String :=
  match Text.decode? piece with
  | none => .error (.io "stream did not contain valid UTF-8")
  | some line =>
    if options.maxLine < piece.length ∧ isNote line = false then
      .error (.lineTooLong options.maxLine)
    else .ok line

/-- Reads one line: the line, nothing at the end of input, or why the piece was refused; and the
input after it. -/
def read (options : Options) (bytes : Bytes) : Except ShellError (Option String) × Bytes :=
  match split? bytes with
  | none => (.ok none, bytes)
  | some (piece, rest) => ((accept options piece).map some, rest)

end JobShell.Line
