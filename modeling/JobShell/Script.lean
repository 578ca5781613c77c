import JobShell.Decimal.Integer
import JobShell.Descriptors
import JobShell.Line
import JobShell.Program

/-!
# Scripts

An executable file that is no program may name its interpreter in its first line. The system looks
at the head of the file only, and does not take a name that the head cuts off. A script that names
none is left to the standard interpreter, which carries it out line by line: the words of a line are
a command, up to a word that starts with `#`, and a line without words does nothing.
-/

namespace JobShell.Script

/-! ## The interpreter that a script names -/

/-- The mark before the name of an interpreter. -/
def mark : Bytes := [0x23, 0x21]

/-- The number of bytes in the head of a file after the mark. -/
def headSize : Nat := 254

/-- A space or a tab. -/
def isGap (b : UInt8) : Bool :=
  b == 0x20 || b == 0x09

/-- A name ends before a gap or a zero. -/
def endsName (b : UInt8) : Bool :=
  isGap b || b == 0

/-- Bytes without the gaps at their end. -/
def trimEnd (bytes : Bytes) : Bytes :=
  (bytes.reverse.dropWhile isGap).reverse

/-- The head of a file after the mark, filled up with zeros. -/
def head? (data : Bytes) : Option Bytes :=
  if mark.isPrefixOf data then
    some ((data.drop mark.length ++ List.replicate headSize 0).take headSize)
  else none

/-- The part of a head that the name stands in: the first line, if it ends before any zero; else all
but the last byte, if the head shows where the name ends. -/
def nameField? (head : Bytes) : Option Bytes :=
  let line := head.takeWhile fun b => b != Line.newline && b != 0
  if head[line.length]? = some Line.newline then some line
  else if (head.dropWhile isGap).any endsName then some head.dropLast
  else none

/-- The path of the interpreter that a script names. An empty name is the working directory. -/
def interpreter? (data : Bytes) : Option String :=
  match (head? data).bind nameField? with
  | none => none
  | some field =>
    let text := (trimEnd field).dropWhile isGap
    let name := text.takeWhile fun b => !endsName b
    if text.isEmpty then none else if name.isEmpty then some "." else some (Text.display name)

/-! ## The standard interpreter -/

/-- The words of a line up to a comment. -/
def wordsOf (line : String) : List String :=
  ((Text.words (fun c => c == ' ' || c == '\t') line.toList).takeWhile
    fun w => w.head? != some '#').map String.ofList

/-- The commands of a script, one a line. Zeros do not count. -/
def commands (data : Bytes) : List (List String) :=
  ((Text.display (data.filter (· != 0))).splitOn "\n").map wordsOf

/-- The status of a command that is not found. -/
def notFoundStatus : Int := 127

/-- The status of a command that cannot make sense of its argument. -/
def misuseStatus : Int := 2

/-- Says what is wrong with a line of the script at `path`, then goes on. -/
def complain (path : String) (line : Nat) (complaint : String) (next : Program) : Program :=
  .write standardError
    (Text.encode (path ++ ": " ++ toString line ++ ": " ++ complaint ++ "\n")) next

/-- Leaves a script, with the status so far unless there is an argument. -/
def exit (path : String) (line : Nat) (status : Int) : List String → Program
  | [] => .exit status
  | a :: _ =>
    match Decimal.digits? a.toList with
    | some n => .exit n
    | none => complain path line ("exit: Illegal number: " ++ a) (.exit misuseStatus)

/-- Carries out commands, the first of them on line `line`, after others have left `status`. -/
def carryOut (find : String → Option Image) (path : String) (i : Invocation) (line : Nat)
    (status : Int) : List (List String) → Program
  | [] => .exit status
  | [] :: rest => carryOut find path i (line + 1) status rest
  | (name :: args) :: rest =>
    if name = "exit" then exit path line status args
    else if name = ":" then carryOut find path i (line + 1) 0 rest
    else match find name with
      | some image =>
        (image { i with args }).andThen fun code =>
          carryOut find path i (line + 1) (code % 256) rest
      | none =>
        complain path line (name ++ ": not found")
          (carryOut find path i (line + 1) notFoundStatus rest)

/-- What the standard interpreter does with a script at `path`, where `find` finds programs. -/
def image (find : String → Option Image) (path : String) (data : Bytes) : Image := fun i =>
  carryOut find path i 1 0 (commands data)

end JobShell.Script
