/-!
# The shortest decimal of a binary number

A finite binary number is written with the fewest digits that read back as it, and of those with the
digits nearest to it. All arithmetic is on natural numbers. `Layout` says how digits and an exponent
are then written down.
-/

namespace JobShell.Decimal

/-! ## Binary numbers -/

/-- The number of fractions of a finite binary number: the significand of a normal one lies between
this and its double. -/
def fractions : Nat := 4503599627370496

/-- The number of exponent fields. -/
def exponentFields : Nat := 2048

/-- The bit pattern of the least negative number. -/
def signPattern : Nat := 9223372036854775808

/-- The exponent of the last place of the smallest numbers. -/
def leastExponent : Int := -1074

/-! ## Digits -/

/-- A positive binary number and the bounds of what rounds to it, in units of `num / den`. The
bounds themselves round to it if `closed` is set. -/
structure Span where
  num : Nat
  den : Nat
  low : Nat
  value : Nat
  high : Nat
  closed : Bool
  deriving DecidableEq, Repr

namespace Span

/-- The span of `significand * 2 ^ exponent`. A unit is a quarter of the last place; below a power
of two, where the places are half as wide, the lower bound is half as far away. -/
def of (significand : Nat) (exponent : Int) : Span where
  num := Nat.pow 2 (exponent - 2).toNat
  den := Nat.pow 2 (2 - exponent).toNat
  low := if significand = fractions ∧ leastExponent < exponent then 4 * significand - 1
    else 4 * significand - 2
  value := 4 * significand
  high := 4 * significand + 2
  closed := significand % 2 == 0

/-- The exponent of the leading digit. -/
def leading (s : Span) : Int :=
  let num := s.value * s.num
  if s.den ≤ num then (Nat.toDigits 10 (num / s.den)).length - 1
  else
    let places := (Nat.toDigits 10 (s.den / num)).length
    if s.den ≤ num * Nat.pow 10 (places - 1) then 1 - places else -places

/-- The multiple of `10 ^ e` within the bounds that is nearest to the value, the even one of two. -/
def nearest? (s : Span) (e : Int) : Option Nat :=
  let unit := s.num * Nat.pow 10 (-e).toNat
  let place := s.den * Nat.pow 10 e.toNat
  let inside (n : Nat) : Bool :=
    if s.closed then s.low * unit ≤ n * place && n * place ≤ s.high * unit
    else s.low * unit < n * place && n * place < s.high * unit
  let below := s.value * unit / place
  let above := below + 1
  match inside below, inside above with
  | true, false => some below
  | false, true => some above
  | false, false => none
  | true, true =>
    match compare (2 * s.value * unit) ((below + above) * place) with
    | .lt => some below
    | .gt => some above
    | .eq => some (if below % 2 = 0 then below else above)

/-- The number of digits that always suffices. -/
def maxDigits : Nat := 17

/-- The number with the fewest digits within the bounds, as `n * 10 ^ e`. -/
def shortest (s : Span) : Nat × Int :=
  ((List.range maxDigits).findSome? fun (k : Nat) =>
    (s.nearest? (s.leading - k)).map (·, s.leading - k)).getD (s.value, 0)

end Span

/-! ## Layout -/

/-- How a number is written down: in full if the exponent of its leading digit lies between `least`
and `greatest`, otherwise with an exponent. -/
structure Layout where
  least : Int
  greatest : Int
  deriving DecidableEq, Repr

namespace Layout

/-- Digits with a point after the first of them, if there are more. -/
def pointed : List Char → List Char
  | [] => []
  | [d] => [d]
  | d :: ds => d :: '.' :: ds

/-- The text of an exponent, which always has a sign. -/
def exponentText (e : Int) : List Char :=
  (if e < 0 then '-' else '+') :: Nat.toDigits 10 e.natAbs

/-- The text of digits whose leading one has the exponent `e`. -/
def render (l : Layout) (digits : List Char) (e : Int) : List Char :=
  if e < l.least ∨ l.greatest < e then pointed digits ++ 'e' :: exponentText e
  else if e < 0 then
    '0' :: '.' :: (List.replicate (-e - 1).toNat '0' ++ digits)
  else
    let whole := e.toNat + 1
    if digits.length ≤ whole then
      digits ++ List.replicate (whole - digits.length) '0' ++ ['.', '0']
    else digits.take whole ++ '.' :: digits.drop whole

/-- Digits without the zeros at their end. -/
def trimZeros (digits : List Char) : List Char :=
  (digits.reverse.dropWhile (· == '0')).reverse

/-- The text of `n * 10 ^ e`. -/
def renderScaled (l : Layout) (n : Nat) (e : Int) : List Char :=
  let digits := Nat.toDigits 10 n
  l.render (trimZeros digits) (e + digits.length - 1)

/-- The span of the finite number, other than zero, with an exponent field and a fraction. -/
def spanOf (field fraction : Nat) : Span :=
  if field = 0 then .of fraction leastExponent
  else .of (fractions + fraction) (leastExponent + (field : Int) - 1)

/-- The text of a finite number. -/
def renderFloat (l : Layout) (x : Float) : List Char :=
  let bits := x.toBits.toNat
  let fraction := bits % fractions
  let field := bits / fractions % exponentFields
  let sign := if signPattern ≤ bits then ['-'] else []
  if field = 0 ∧ fraction = 0 then sign ++ ['0', '.', '0']
  else
    let (n, e) := (spanOf field fraction).shortest
    sign ++ l.renderScaled n e

end Layout

end JobShell.Decimal
