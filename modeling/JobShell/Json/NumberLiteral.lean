import JobShell.Decimal.Integer
import JobShell.Json.Fault

/-!
# JSON numbers

A number is an integer, without leading zeros, that a fraction and an exponent may follow. One
without either is exact as long as it fits into 64 bits, negative ones into a signed word; minus
zero, longer ones and all others are floating point numbers. Their significand is the digits that
fit into 64 bits, scaled by a power of ten in one step wherever a single power will do. A number
that is passed over is held to its form only.

* `length_read_lt`, `length_skip_lt`: both leave fewer characters than they were given.
-/

namespace JobShell.Json.NumberLiteral

/-! ## Digits -/

def isDigit (c : Char) : Bool :=
  (Decimal.digit? c).isSome

/-- The digits that a text starts with. -/
def digits (cs : List Char) : List Nat :=
  (cs.takeWhile isDigit).filterMap Decimal.digit?

/-- The text after the digits that it starts with. -/
def afterDigits (cs : List Char) : List Char :=
  cs.dropWhile isDigit

def startsWithDigit (cs : List Char) : Bool :=
  cs.head?.any isDigit

/-- Whether an exponent follows. -/
def startsWithMark (cs : List Char) : Bool :=
  cs.head?.any fun c => c == 'e' || c == 'E'

/-! ## Significands -/

/-- The digits so far, as `value * 10 ^ exponent`. Once a digit did not fit the significand is full
and takes no more of its kind. -/
structure Significand where
  value : Nat := 0
  exponent : Int := 0
  full : Bool := false
  deriving DecidableEq, Repr

namespace Significand

/-- Whether one more digit fits. -/
def takes (s : Significand) (digit : Nat) : Bool :=
  !s.full && s.value * 10 + digit ≤ Decimal.maxSize

/-- One more digit before the point. -/
def pushWhole (s : Significand) (digit : Nat) : Significand :=
  if s.takes digit then { s with value := s.value * 10 + digit }
  else { s with exponent := s.exponent + 1, full := true }

/-- One more digit after the point. -/
def pushFraction (s : Significand) (digit : Nat) : Significand :=
  if s.takes digit then
    { s with value := s.value * 10 + digit, exponent := s.exponent - 1 }
  else { s with full := true }

end Significand

/-! ## Scaling -/

/-- The greatest power of ten that is a finite floating point number. -/
def maxPower : Nat := 308

def power (n : Nat) : Float :=
  Float.ofScientific 1 false n

/-- `x` divided by a power of ten. -/
def scaleDown (x : Float) (n : Nat) : Float :=
  if n ≤ maxPower then x / power n
  else if x == 0 then x
  else scaleDown (x / power maxPower) (n - maxPower)
termination_by n
decreasing_by
  have : 0 < maxPower := by decide
  omega

/-- `x` multiplied by a power of ten, unless that is beyond all bounds. -/
def scaleUp? (x : Float) (n : Nat) : Option Float :=
  if n ≤ maxPower then
    let y := x * power n
    if y.isInf then none else some y
  else if x == 0 then some x
  else none

/-- The floating point number of a significand and an exponent. -/
def float? (value : Nat) (exponent : Int) : Option Float :=
  if 0 ≤ exponent then scaleUp? (Float.ofNat value) exponent.toNat
  else some (scaleDown (Float.ofNat value) (-exponent).toNat)

/-! ## Reading -/

/-- A floating point number with a sign. -/
def signed (negative : Bool) (x : Float) : Number :=
  .float (if negative then -x else x)

/-- The number of a significand and an exponent, with what comes after it. -/
def scaled (negative : Bool) (value : Nat) (exponent : Int) (rest : List Char) :
    Except Fault (Number × List Char) :=
  match float? value exponent with
  | some x => .ok (signed negative x, rest)
  | none => .error (.before .numberOutOfRange rest)

/-- The greatest magnitude of a negative integer. -/
def maxNegative : Nat := 9223372036854775808

/-- An integer that fits into 64 bits. -/
def integer (negative : Bool) (n : Nat) : Number :=
  if !negative then .natural n
  else if n = 0 ∨ maxNegative < n then signed true (Float.ofNat n)
  else .negative n

/-- The digits of an exponent, continuing `acc`: its value, or nothing once it has more than 31
bits; and the text after the last digit that was looked at. -/
def exponentFrom (acc : Nat) : List Char → Option Nat × List Char
  | [] => (some acc, [])
  | c :: cs =>
    match Decimal.digit? c with
    | none => (some acc, c :: cs)
    | some d =>
      if Decimal.maxCode < (acc * 10 + d : Nat) then (none, cs) else exponentFrom (acc * 10 + d) cs

/-- The sign of an exponent, set for a minus, and the text after it. -/
def exponentSign : List Char → Bool × List Char
  | '+' :: cs => (false, cs)
  | '-' :: cs => (true, cs)
  | cs => (false, cs)

/-- What follows the letter of an exponent. -/
def readExponent (negative : Bool) (s : Significand) (cs : List Char) :
    Except Fault (Number × List Char) :=
  let (down, cs) := exponentSign cs
  if cs.isEmpty then .error (.atEnd .endInValue)
  else if !startsWithDigit cs then .error (.next .invalidNumber cs)
  else match exponentFrom 0 cs with
    | (some n, rest) =>
      scaled negative s.value (s.exponent + if down then -(n : Int) else n) rest
    | (none, rest) =>
      if s.value ≠ 0 ∧ !down then .error (.before .numberOutOfRange rest)
      else .ok (signed negative 0, afterDigits rest)

/-- An exponent, if there is one. -/
def readScale (negative : Bool) (s : Significand) (cs : List Char) :
    Except Fault (Number × List Char) :=
  if startsWithMark cs then readExponent negative s cs.tail
  else scaled negative s.value s.exponent cs

/-- What follows the point. -/
def readFraction (negative : Bool) (s : Significand) (cs : List Char) :
    Except Fault (Number × List Char) :=
  if cs.isEmpty then .error (.atEnd .endInValue)
  else if !startsWithDigit cs then .error (.next .invalidNumber cs)
  else
    readScale negative ((digits cs).foldl Significand.pushFraction { s with full := false })
      (afterDigits cs)

/-- What follows the digits before the point. -/
def readTail (negative : Bool) (s : Significand) : List Char → Except Fault (Number × List Char)
  | '.' :: cs => readFraction negative s cs
  | cs =>
    if s.full || startsWithMark cs then readScale negative s cs
    else .ok (integer negative s.value, cs)

/-- Reads a number, after its sign if it has one. -/
def read (negative : Bool) (cs : List Char) : Except Fault (Number × List Char) :=
  match cs with
  | [] => .error (.atEnd .endInValue)
  | c :: rest =>
    if !isDigit c then .error (.next .invalidNumber cs)
    else if c = '0' && startsWithDigit rest then .error (.next .invalidNumber rest)
    else readTail negative ((digits cs).foldl Significand.pushWhole {}) (afterDigits cs)

/-! ## Passing over -/

/-- Passes over an exponent, if there is one. -/
def skipScale (cs : List Char) : Except Fault (List Char) :=
  if startsWithMark cs then
    let (_, cs) := exponentSign cs.tail
    if startsWithDigit cs then .ok (afterDigits cs) else .error (.next .invalidNumber cs)
  else .ok cs

/-- Passes over what follows the digits before the point. -/
def skipTail : List Char → Except Fault (List Char)
  | '.' :: cs =>
    if startsWithDigit cs then skipScale (afterDigits cs) else .error (.next .invalidNumber cs)
  | cs => skipScale cs

/-- Passes over a number, after its sign if it has one. -/
def skip (cs : List Char) : Except Fault (List Char) :=
  match cs with
  | [] => .error (.atEnd .invalidNumber)
  | c :: rest =>
    if !isDigit c then .error (.next .invalidNumber cs)
    else if c = '0' && startsWithDigit rest then .error (.next .invalidNumber rest)
    else skipTail (afterDigits cs)

/-! ## What is left -/

theorem length_afterDigits_le (cs : List Char) : (afterDigits cs).length ≤ cs.length :=
  (List.dropWhile_sublist isDigit).length_le

theorem length_afterDigits_lt {cs : List Char} (h : startsWithDigit cs = true) :
    (afterDigits cs).length < cs.length := by
  cases cs with
  | nil => cases h
  | cons c cs =>
    have digit : isDigit c = true := by simpa [startsWithDigit] using h
    have := length_afterDigits_le cs
    unfold afterDigits at *
    simp only [List.dropWhile_cons, digit, if_true, List.length_cons]
    omega

theorem length_exponentSign_le (cs : List Char) : (exponentSign cs).2.length ≤ cs.length := by
  unfold exponentSign
  split <;> simp

theorem length_exponentFrom_le (acc : Nat) (cs : List Char) :
    (exponentFrom acc cs).2.length ≤ cs.length := by
  fun_induction exponentFrom acc cs with
  | case1 | case2 | case3 => simp
  | case4 acc c cs d _ _ ih => simp only [List.length_cons]; omega

theorem eq_of_scaled {negative : Bool} {value : Nat} {exponent : Int} {cs rest : List Char}
    {n : Number} (h : scaled negative value exponent cs = .ok (n, rest)) : rest = cs := by
  unfold scaled at h
  split at h <;> cases h
  rfl

theorem length_readExponent_le {negative : Bool} {s : Significand} {cs rest : List Char}
    {n : Number} (h : readExponent negative s cs = .ok (n, rest)) :
    rest.length ≤ cs.length := by
  unfold readExponent at h
  have sign := length_exponentSign_le cs
  generalize exponentSign cs = signed at *
  obtain ⟨down, after⟩ := signed
  have power := length_exponentFrom_le 0 after
  simp only at h sign
  split at h
  · cases h
  split at h
  · cases h
  generalize exponentFrom 0 after = read at *
  obtain ⟨value, left⟩ := read
  simp only at power
  cases value with
  | some m =>
    have := eq_of_scaled h
    subst this
    omega
  | none =>
    simp only at h
    split at h
    · cases h
    · cases h
      have := length_afterDigits_le left
      omega

theorem length_readScale_le {negative : Bool} {s : Significand} {cs rest : List Char}
    {n : Number} (h : readScale negative s cs = .ok (n, rest)) : rest.length ≤ cs.length := by
  unfold readScale at h
  split at h
  · exact Nat.le_trans (length_readExponent_le h) (by simp)
  · exact Nat.le_of_eq (congrArg List.length (eq_of_scaled h))

theorem length_readFraction_le {negative : Bool} {s : Significand} {cs rest : List Char}
    {n : Number} (h : readFraction negative s cs = .ok (n, rest)) : rest.length ≤ cs.length := by
  unfold readFraction at h
  split at h
  · cases h
  split at h
  · cases h
  · exact Nat.le_trans (length_readScale_le h) (length_afterDigits_le cs)

theorem length_readTail_le {negative : Bool} {s : Significand} {cs rest : List Char} {n : Number}
    (h : readTail negative s cs = .ok (n, rest)) : rest.length ≤ cs.length := by
  unfold readTail at h
  split at h
  · have := length_readFraction_le h
    simp only [List.length_cons]
    omega
  · split at h
    · exact length_readScale_le h
    · cases h
      exact Nat.le_refl _

/-- To read a number takes at least a character, so a document is read to its end. -/
theorem length_read_lt {negative : Bool} {cs rest : List Char} {n : Number}
    (h : read negative cs = .ok (n, rest)) : rest.length < cs.length := by
  unfold read at h
  split at h
  · cases h
  · rename_i c left
    split at h
    · cases h
    · rename_i digit
      split at h
      · cases h
      · have := length_readTail_le h
        have starts : startsWithDigit (c :: left) = true := by
          simpa [startsWithDigit] using digit
        have := length_afterDigits_lt starts
        omega

theorem length_skipScale_le {cs rest : List Char} (h : skipScale cs = .ok rest) :
    rest.length ≤ cs.length := by
  unfold skipScale at h
  split at h
  · have sign := length_exponentSign_le cs.tail
    have tail : cs.tail.length ≤ cs.length := by simp
    have := length_afterDigits_le (exponentSign cs.tail).2
    simp only at h
    split at h <;> cases h
    omega
  · cases h
    exact Nat.le_refl _

theorem length_skipTail_le {cs rest : List Char} (h : skipTail cs = .ok rest) :
    rest.length ≤ cs.length := by
  unfold skipTail at h
  split at h
  · rename_i left
    have := length_afterDigits_le left
    simp only [List.length_cons]
    split at h
    · have := length_skipScale_le h
      omega
    · cases h
  · exact length_skipScale_le h

theorem length_skip_lt {cs rest : List Char} (h : skip cs = .ok rest) :
    rest.length < cs.length := by
  unfold skip at h
  split at h
  · cases h
  · rename_i c left
    split at h
    · cases h
    · rename_i digit
      split at h
      · cases h
      · have := length_skipTail_le h
        have starts : startsWithDigit (c :: left) = true := by
          simpa [startsWithDigit] using digit
        have := length_afterDigits_lt starts
        omega

end JobShell.Json.NumberLiteral
