import JobShell.Line
import JobShell.Session

/-!
# Input over time

Input arrives in portions, and things happen while the shell waits for a portion. A `Reading` is one
read of a line: what happened at each wait on the way, and the piece of input that was got.
`readings` cuts all input into readings; the last one meets the end of input.
-/

namespace JobShell

/-- A portion of input. One without bytes is a wait that ends at the end of input. -/
structure Arrival where
  /-- What happens while the shell waits for the portion. -/
  before : List Event := []
  bytes : Bytes
  /-- What happens while the shell waits for the foreground command that the portion starts. -/
  meanwhile : List Event := []
  deriving DecidableEq, Repr

/-- One read of a line. -/
structure Reading where
  /-- What happens at each wait for input, in order. -/
  waits : List (List Event) := []
  /-- What has come in before the first of the waits, and does not make up a line. -/
  held : Bytes := []
  /-- The piece of input, or nothing at its end. -/
  piece : Option Bytes
  /-- What happens while the shell waits for the foreground command in it. -/
  meanwhile : List Event := []
  deriving DecidableEq, Repr

namespace Input

/-- The pieces that end in a newline, and what comes after the last newline. -/
def completePieces : Bytes → List Bytes × Bytes
  | [] => ([], [])
  | b :: bs =>
    let (pieces, rest) := completePieces bs
    if b = Line.newline then ([] :: pieces, rest)
    else match pieces with
      | piece :: pieces => ((b :: piece) :: pieces, rest)
      | [] => ([], b :: rest)

/-- The reads at the end of input: of what is left over, if anything, and of the end. -/
def atEnd (waits : List (List Event)) (held left : Bytes) : List Reading :=
  if left.isEmpty then [{ waits, held, piece := none }]
  else [{ waits, held, piece := some left }, { piece := none }]

/-- The reads of lines, where `left` is the start of a line that has come in, `held` how much of it
was there when the read under way began, and `waits` the waits of that read. -/
def readingsFrom (waits : List (List Event)) (held left : Bytes) : List Arrival → List Reading
  | [] => atEnd waits held left
  | a :: as =>
    let waits := waits ++ [a.before]
    if a.bytes.isEmpty then atEnd waits held left
    else match completePieces (left ++ a.bytes) with
      | ([], rest) => readingsFrom waits held rest as
      | (piece :: pieces, rest) =>
        { waits, held, piece := some piece, meanwhile := a.meanwhile } ::
          (pieces.map fun p => { piece := some p }) ++ readingsFrom [] rest rest as

/-- The reads of lines that a sequence of portions allows. -/
def readings (arrivals : List Arrival) : List Reading :=
  readingsFrom [] [] [] arrivals

/-- The bytes that come in: those of the portions up to the one that ends the input. -/
def received : List Arrival → Bytes
  | [] => []
  | a :: as => if a.bytes.isEmpty then [] else a.bytes ++ received as

/-- The number of bytes that the shell asks for when it reads its own standard input. -/
def blockSize : Nat := 8192

/-- The portions of an input that is there from the start: its blocks, and its end. -/
def blocks (input : Bytes) : List Arrival :=
  ((List.range (input.length / blockSize + 1)).map fun k =>
    { bytes := (input.drop (k * blockSize)).take blockSize }) ++ [{ bytes := [] }]

end Input

end JobShell
