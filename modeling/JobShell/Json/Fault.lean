import JobShell.Json.Head

/-!
# What is wrong with a document

A reader works on the characters that are left and, when it refuses them, says why and where: a
`Fault` holds the characters that were left and how many bytes further the finger points. A message
gives the place as a line, counted from 1, and a column, the number of bytes on that line up to and
including the one in question.
-/

namespace JobShell.Json

/-- Why a document is refused. -/
inductive Cause where
  | endInValue
  | endInObject
  | endInList
  | endInString
  | expectedValue
  | expectedLiteral
  | expectedColon
  | expectedListDelimiter
  | expectedObjectDelimiter
  | keyNotString
  | trailingComma
  | trailingCharacters
  | invalidNumber
  | numberOutOfRange
  | invalidEscape
  | controlCharacter
  | loneSurrogate
  | unfinishedSurrogate
  | wrongType (found : Head) (expected : String)
  | wrongValue (found : Head) (expected : String)
  | duplicateField (name : String)
  deriving DecidableEq, Repr

/-- The text of a cause. -/
def Cause.message : Cause → String
  | .endInValue => "EOF while parsing a value"
  | .endInObject => "EOF while parsing an object"
  | .endInList => "EOF while parsing a list"
  | .endInString => "EOF while parsing a string"
  | .expectedValue => "expected value"
  | .expectedLiteral => "expected ident"
  | .expectedColon => "expected `:`"
  | .expectedListDelimiter => "expected `,` or `]`"
  | .expectedObjectDelimiter => "expected `,` or `\x7d`"
  | .keyNotString => "key must be a string"
  | .trailingComma => "trailing comma"
  | .trailingCharacters => "trailing characters"
  | .invalidNumber => "invalid number"
  | .numberOutOfRange => "number out of range"
  | .invalidEscape => "invalid escape"
  | .controlCharacter => "control character (\\u0000-\\u001F) found while parsing a string"
  | .loneSurrogate => "lone leading surrogate in hex escape"
  | .unfinishedSurrogate => "unexpected end of hex escape"
  | .wrongType found expected =>
    "invalid type: " ++ found.description ++ ", expected " ++ expected
  | .wrongValue found expected =>
    "invalid value: " ++ found.description ++ ", expected " ++ expected
  | .duplicateField name => "duplicate field `" ++ name ++ "`"

/-- A place in a text, behind the bytes that come before it. -/
structure Position where
  line : Nat := 1
  column : Nat := 0
  deriving DecidableEq, Repr

namespace Position

/-- The place behind one more character. -/
def next (p : Position) (c : Char) : Position :=
  if c = '\n' then ⟨p.line + 1, 0⟩ else ⟨p.line, p.column + c.utf8Size⟩

/-- The place `n` bytes further, or at the end of the text if that comes before. -/
def advance : Nat → List Char → Position → Position
  | _, [], p => p
  | n, c :: cs, p =>
    if n < c.utf8Size then ⟨p.line, p.column + n⟩ else advance (n - c.utf8Size) cs (p.next c)

/-- The text of a place. -/
def message (p : Position) : String :=
  "line " ++ toString p.line ++ " column " ++ toString p.column

end Position

/-- Why and where a document is refused. -/
structure Fault where
  cause : Cause
  /-- The characters that were left. -/
  rest : List Char
  /-- The bytes of them up to the place in question. -/
  ahead : Nat
  deriving DecidableEq, Repr

namespace Fault

/-- A fault in what has been read. -/
def before (cause : Cause) (rest : List Char) : Fault :=
  ⟨cause, rest, 0⟩

/-- A fault in the next byte, or at the end of the document. -/
def next (cause : Cause) (rest : List Char) : Fault :=
  ⟨cause, rest, 1⟩

/-- A fault found at the end of the document. -/
def atEnd (cause : Cause) : Fault :=
  ⟨cause, [], 0⟩

/-- The place of a fault in a document. -/
def position (f : Fault) (document : List Char) : Position :=
  .advance f.ahead f.rest
    ((document.take (document.length - f.rest.length)).foldl Position.next {})

/-- The text of a fault in a document. -/
def message (f : Fault) (document : List Char) : String :=
  f.cause.message ++ " at " ++ (f.position document).message

end Fault

end JobShell.Json
