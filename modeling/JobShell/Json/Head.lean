import JobShell.Decimal.Shortest
import JobShell.Text.Quoted

/-!
# The head of a JSON value

What a value is as far as it has to be known to refuse it: a scalar with its value, or the fact that
an array or an object begins. Integers are exact as far as 64 bits hold them, and floating point
beyond that.
-/

namespace JobShell.Json

/-- A number. -/
inductive Number where
  | natural (n : Nat)
  /-- The integer `-n`, below zero. -/
  | negative (n : Nat)
  | float (x : Float)
  deriving DecidableEq, Repr

/-- The head of a value. -/
inductive Head where
  | null
  | boolean (b : Bool)
  | number (n : Number)
  | string (s : String)
  | array
  | object
  deriving DecidableEq, Repr

/-- Numbers are written in full from the fifth decimal place up to sixteen whole digits. -/
def layout : Decimal.Layout where
  least := -5
  greatest := 15

/-- A number as a message describes it. -/
def Number.description : Number → String
  | .natural n => "integer `" ++ toString n ++ "`"
  | .negative n => "integer `-" ++ toString n ++ "`"
  | .float x => "floating point `" ++ String.ofList (layout.renderFloat x) ++ "`"

/-- A head as a message describes it. -/
def Head.description : Head → String
  | .null => "null"
  | .boolean b => "boolean `" ++ toString b ++ "`"
  | .number n => n.description
  | .string s => "string " ++ Text.quoted s
  | .array => "sequence"
  | .object => "map"

end JobShell.Json
