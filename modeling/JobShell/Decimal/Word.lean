import JobShell.Decimal.Integer

/-!
# Decimal numbers in a word

An integer of 32 bits is built in a word of that width, digit by digit, and downwards from zero if
it has a minus sign, since there is one more number below zero than above. Few digits always fit and
are taken without a check. With more of them every multiplication and every addition is checked, so
that a number beyond the limits is refused instead of wrapping around.
-/

namespace JobShell.Decimal

namespace Word

/-- One more digit of a number that is built upwards or downwards. The word wraps around. -/
def push (down : Bool) (word : Int32) (digit : Nat) : Int32 :=
  if down then word * 10 - Int32.ofNat digit else word * 10 + Int32.ofNat digit

/-- Whether the word wraps around when it takes one more digit. -/
def overflows (down : Bool) (word : Int32) (digit : Nat) : Bool :=
  let ten : Int32 := 10
  word.toBitVec.smulOverflow ten.toBitVec ||
    if down then (word * ten).toBitVec.ssubOverflow (Int32.ofNat digit).toBitVec
    else (word * ten).toBitVec.saddOverflow (Int32.ofNat digit).toBitVec

/-- One more digit, unless the word wraps around. -/
def push? (down : Bool) (word : Int32) (digit : Nat) : Option Int32 :=
  if overflows down word digit then none else some (push down word digit)

/-- Takes the digits of a text that holds nothing else. -/
def pushAll (push : Int32 → Nat → Option Int32) (word : Int32) : List Char → Option Int32
  | [] => some word
  | c :: cs =>
    match digit? c with
    | none => none
    | some d =>
      match push word d with
      | none => none
      | some word => pushAll push word cs

/-- The number of digits that fit whatever they are. -/
def fewDigits : Nat := 7

/-- The number, or its negative, that is written as one or more digits. -/
def ofDigits? (down : Bool) : List Char → Option Int32
  | [] => none
  | cs =>
    if cs.length ≤ fewDigits then pushAll (fun word d => some (push down word d)) 0 cs
    else pushAll (push? down) 0 cs

/-- The number that is written as digits, with or without a sign. -/
def ofText? : List Char → Option Int32
  | '-' :: cs => ofDigits? true cs
  | '+' :: cs => ofDigits? false cs
  | cs => ofDigits? false cs

end Word

/-- An exit code: an integer of 32 bits. -/
def code? (text : String) : Option Int :=
  (Word.ofText? text.toList).map Int32.toInt

end JobShell.Decimal
