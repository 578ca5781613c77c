/-!
# Bounded decimal numbers

Numbers are read from ASCII digits with an optional sign, and only the whole text counts. The value
is built without bound and compared with the limits at the end, so no spelling wraps around.
-/

namespace JobShell.Decimal

/-- The value of an ASCII digit. -/
def digit? (c : Char) : Option Nat :=
  if '0' ≤ c ∧ c ≤ '9' then some (c.toNat - '0'.toNat) else none

/-- Continues the number `acc` with the digits of a text that holds nothing else. -/
def digitsFrom (acc : Nat) : List Char → Option Nat
  | [] => some acc
  | c :: cs =>
    match digit? c with
    | some d => digitsFrom (acc * 10 + d) cs
    | none => none

/-- A natural number written as one or more digits. -/
def digits? : List Char → Option Nat
  | [] => none
  | cs => digitsFrom 0 cs

/-- A natural number, with or without a plus sign. -/
def natural? : List Char → Option Nat
  | '+' :: cs => digits? cs
  | cs => digits? cs

/-- An integer, with or without a sign. -/
def integer? : List Char → Option Int
  | '-' :: cs => (digits? cs).map fun (n : Nat) => -(n : Int)
  | cs => (natural? cs).map fun (n : Nat) => (n : Int)

/-- The least exit code. -/
def minCode : Int := -2147483648

/-- The greatest exit code. -/
def maxCode : Int := 2147483647

/-- The greatest size. -/
def maxSize : Nat := 18446744073709551615

/-- A size: a natural number of 64 bits. -/
def size? (text : String) : Option Nat :=
  (natural? text.toList).filter fun n => n ≤ maxSize

end JobShell.Decimal
