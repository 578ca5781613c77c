import JobShell.Json.Reader
import JobShell.Proofs.Decimals
import Mathlib.Algebra.Order.Field.Rat
import Mathlib.Algebra.Order.Ring.Rat
import Mathlib.Data.List.TakeWhile
import Mathlib.Data.Rat.Cast.Order
import Mathlib.Tactic.Positivity
import Mathlib.Tactic.SplitIfs

/-!
# Numerals

A number of JSON is written with a sign, a whole part without leading zeros, a fraction and an
exponent, of which only the whole part is needed. Read as a natural number of 64 bits is exactly the
notation of one, whatever value a sign, a fraction or an exponent may leave it; passed over is every
numeral.

* `NumberLiteral.skip_unsigned`: a numeral is passed over up to its end.
* `NumberLiteral.read_eq_natural_iff`: the texts that are read as a natural number.
-/

namespace JobShell.Json

/-- Digits, at least one. -/
structure Digits where
  text : List Char
  present : text ≠ []
  digits : ∀ c ∈ text, c.isDigit = true

/-- The exponent of a numeral. -/
structure Exponent where
  mark : Char
  isMark : mark = 'e' ∨ mark = 'E'
  sign : List Char
  isSign : sign ∈ [[], ['+'], ['-']]
  digits : Digits

/-- A number as it is written. -/
structure Numeral where
  negative : Bool := false
  whole : Nat
  fraction : Option Digits := none
  exponent : Option Exponent := none

namespace Digits

def value (d : Digits) : Nat :=
  Nat.ofDigitChars 10 d.text 0

end Digits

namespace Exponent

def text (e : Exponent) : List Char :=
  e.mark :: (e.sign ++ e.digits.text)

def value (e : Exponent) : Int :=
  if e.sign = ['-'] then -e.digits.value else e.digits.value

end Exponent

namespace Numeral

/-- What follows the whole part. -/
def tail (n : Numeral) : List Char :=
  n.fraction.elim [] (fun d => '.' :: d.text) ++ n.exponent.elim [] Exponent.text

/-- The numeral without its sign. -/
def unsigned (n : Numeral) : List Char :=
  Nat.toDigits 10 n.whole ++ n.tail

def text (n : Numeral) : List Char :=
  if n.negative then '-' :: n.unsigned else n.unsigned

/-- The number that is written. -/
def value (n : Numeral) : ℚ :=
  (if n.negative then -1 else 1) *
    (n.whole + n.fraction.elim 0 fun d => d.value / 10 ^ d.text.length) *
    n.exponent.elim 1 fun e => 10 ^ e.value

/-- The notation of a natural number of 64 bits. -/
def IsSize (n : Numeral) : Prop :=
  n.negative = false ∧ n.fraction = none ∧ n.exponent = none ∧ n.whole ≤ Decimal.maxSize

/-- A size is a number without fraction or exponent. -/
theorem value_of_isSize {n : Numeral} (size : n.IsSize) : n.value = n.whole := by
  obtain ⟨positive, whole, plain, -⟩ := size
  simp [value, positive, whole, plain]

theorem value_nonneg {n : Numeral} (positive : n.negative = false) : 0 ≤ n.value := by
  have fraction : (0 : ℚ) ≤ n.fraction.elim 0 fun d => d.value / 10 ^ d.text.length := by
    cases n.fraction with
    | none => exact le_refl 0
    | some d =>
      rw [Option.elim_some]
      positivity
  have scale : (0 : ℚ) ≤ n.exponent.elim 1 fun e => 10 ^ e.value := by
    cases n.exponent with
    | none => exact zero_le_one
    | some e => exact zpow_nonneg (by norm_num) e.value
  rw [value, positive, if_neg (by decide), one_mul]
  exact mul_nonneg (add_nonneg (Nat.cast_nonneg _) fraction) scale

end Numeral

open NumberLiteral

variable {c : Char} {cs ds rest : List Char} {n k : Nat} {negative : Bool} {s : Significand}

/-! ## Ends -/

/-- A numeral may end before a text: its first character would not go on with one. -/
structure Closes (rest : List Char) : Prop where
  notDigit : startsWithDigit rest = false
  notMark : startsWithMark rest = false
  notPoint : ∀ cs, rest ≠ '.' :: cs

theorem NumberLiteral.isDigit_eq (c : Char) : isDigit c = c.isDigit :=
  Decimal.isSome_digit? c

/-- A text closes a number if it begins with none of its parts. -/
theorem closes_cons (digit : c.isDigit = false) (mark : c ≠ 'e' ∧ c ≠ 'E') (point : c ≠ '.') :
    Closes (c :: cs) where
  notDigit := (isDigit_eq c).trans digit
  notMark := by simp [startsWithMark, mark]
  notPoint := by simp [point]

namespace NumberLiteral

/-! ## Digits -/

/-- Digits are told apart from what does not start with one. -/
theorem takeWhile_isDigit (all : ∀ c ∈ ds, c.isDigit = true) (stop : startsWithDigit rest = false) :
    (ds ++ rest).takeWhile isDigit = ds ∧ afterDigits (ds ++ rest) = rest := by
  have digits : ∀ c ∈ ds, isDigit c = true := fun c member => (isDigit_eq c).trans (all c member)
  rw [afterDigits, List.takeWhile_append_of_pos digits, List.dropWhile_append_of_pos digits]
  cases rest with
  | nil => simp
  | cons c rest =>
    have first : isDigit c = false := by simpa [startsWithDigit] using stop
    simp [first]

/-- The notation of a number starts with a digit, and with a zero only if no more digits follow. -/
theorem exists_toDigits (n : Nat) (stop : startsWithDigit rest = false) :
    ∃ c cs, Nat.toDigits 10 n = c :: cs ∧ isDigit c = true ∧
      (c = '0' && startsWithDigit (cs ++ rest)) = false := by
  cases shape : Nat.toDigits 10 n with
  | nil => simp at shape
  | cons c cs =>
    have digit := Decimal.isDigit_of_mem_toDigits (c := c) (n := n) (by simp [shape])
    refine ⟨c, cs, rfl, (isDigit_eq c).trans digit, ?_⟩
    by_cases zero : c = '0'
    · subst zero
      rw [Decimal.eq_nil_of_toDigits shape, List.nil_append, stop]
      rfl
    · simp [zero]

/-! ## Passing over -/

/-- A whole number is passed over digit by digit. -/
theorem skip_toDigits (stop : startsWithDigit rest = false) :
    skip (Nat.toDigits 10 n ++ rest) = skipTail rest := by
  obtain ⟨c, cs, shape, digit, lone⟩ := exists_toDigits n stop
  have after := (takeWhile_isDigit (fun c => Decimal.isDigit_of_mem_toDigits (n := n)) stop).2
  rw [shape, List.cons_append] at after ⊢
  rw [skip, if_neg (by simp [digit]), if_neg (by simp [lone]), after]

theorem startsWithDigit_digits (d : Digits) : startsWithDigit (d.text ++ rest) = true := by
  obtain ⟨text, present, digits⟩ := d
  cases text with
  | nil => exact absurd rfl present
  | cons c cs => simpa [startsWithDigit, isDigit_eq] using digits c List.mem_cons_self

theorem afterDigits_digits (d : Digits) (stop : startsWithDigit rest = false) :
    afterDigits (d.text ++ rest) = rest :=
  (takeWhile_isDigit d.digits stop).2

theorem exponentSign_digits (e : Exponent) :
    (exponentSign (e.sign ++ (e.digits.text ++ rest))).2 = e.digits.text ++ rest := by
  have digit : startsWithDigit (e.digits.text ++ rest) = true := startsWithDigit_digits e.digits
  obtain ⟨_, _, sign, sign', d⟩ := e
  simp only [List.mem_cons, List.not_mem_nil, or_false] at sign'
  rcases sign' with rfl | rfl | rfl
  · dsimp only [List.nil_append] at digit ⊢
    unfold exponentSign
    split <;> rename_i shape
    · rw [shape] at digit
      cases digit
    · rw [shape] at digit
      cases digit
    · rfl
  · rfl
  · rfl

theorem skipScale_exponent (exponent : Option Exponent) (closes : Closes rest) :
    skipScale (exponent.elim [] Exponent.text ++ rest) = .ok rest := by
  cases exponent with
  | none => exact if_neg (by simp [closes.notMark])
  | some e =>
    have mark : startsWithMark (e.text ++ rest) = true := by
      rcases e.isMark with lower | upper
      · simp [startsWithMark, Exponent.text, lower]
      · simp [startsWithMark, Exponent.text, upper]
    have after : (exponentSign (e.text ++ rest).tail).2 = e.digits.text ++ rest := by
      rw [Exponent.text, List.cons_append, List.tail_cons, List.append_assoc, exponentSign_digits]
    rw [Option.elim_some, skipScale, if_pos mark]
    dsimp only
    rw [after, if_pos (startsWithDigit_digits e.digits),
      afterDigits_digits e.digits (closes.notDigit)]

theorem startsWithDigit_exponent (exponent : Option Exponent) (closes : Closes rest) :
    startsWithDigit (exponent.elim [] Exponent.text ++ rest) = false := by
  cases exponent with
  | none => exact closes.notDigit
  | some e =>
    rcases e.isMark with lower | upper
    · simp [startsWithDigit, isDigit_eq, Exponent.text, lower]
    · simp [startsWithDigit, isDigit_eq, Exponent.text, upper]

theorem exponent_ne_point (exponent : Option Exponent) (closes : Closes rest) :
    ∀ cs, exponent.elim [] Exponent.text ++ rest ≠ '.' :: cs := by
  rintro cs point
  cases exponent with
  | none => exact closes.notPoint cs point
  | some e =>
    obtain ⟨mark, -⟩ := List.cons.inj point
    rcases e.isMark with lower | upper
    · rw [lower] at mark
      cases mark
    · rw [upper] at mark
      cases mark

theorem startsWithDigit_tail (n : Numeral) (closes : Closes rest) :
    startsWithDigit (n.tail ++ rest) = false := by
  unfold Numeral.tail
  cases n.fraction with
  | none => exact startsWithDigit_exponent n.exponent closes
  | some d => rfl

theorem skipTail_tail (n : Numeral) (closes : Closes rest) :
    skipTail (n.tail ++ rest) = .ok rest := by
  have scale := skipScale_exponent n.exponent closes
  unfold Numeral.tail
  cases n.fraction with
  | none =>
    rw [Option.elim_none, List.nil_append, skipTail]
    · exact scale
    · exact exponent_ne_point n.exponent closes
  | some d =>
    have stop := startsWithDigit_exponent n.exponent closes
    rw [Option.elim_some, List.cons_append, List.cons_append, List.append_assoc, skipTail,
      if_pos (startsWithDigit_digits d), afterDigits_digits d stop, scale]

/-- A numeral is passed over up to its end. -/
theorem skip_unsigned (n : Numeral) (closes : Closes rest) :
    skip (n.unsigned ++ rest) = .ok rest := by
  rw [Numeral.unsigned, List.append_assoc, skip_toDigits (startsWithDigit_tail n closes),
    skipTail_tail n closes]

/-! ## Reading -/

/-- A significand takes a digit while it is not full and the value fits into a machine word. -/
theorem takes_iff {digit : Nat} : s.takes digit = true ↔
    s.full = false ∧ s.value * 10 + digit ≤ Decimal.maxSize := by
  simp [Significand.takes]

theorem full_foldl_pushWhole (full : s.full = true) (digits : List Nat) :
    (digits.foldl Significand.pushWhole s).full = true := by
  induction digits generalizing s with
  | nil => exact full
  | cons digit digits ih =>
    apply ih
    rw [Significand.pushWhole, if_neg (by simp [takes_iff, full])]

/-- A significand is exact as long as it fits. -/
theorem foldl_pushWhole_of_le (all : ∀ c ∈ cs, c.isDigit = true) (hungry : s.full = false)
    (fits : Nat.ofDigitChars 10 cs s.value ≤ Decimal.maxSize) :
    (cs.filterMap Decimal.digit?).foldl Significand.pushWhole s =
      { s with value := Nat.ofDigitChars 10 cs s.value } := by
  induction cs generalizing s with
  | nil => rfl
  | cons c cs ih =>
    obtain ⟨digit, others⟩ := List.forall_mem_cons.1 all
    have read : Decimal.digit? c = some (c.toNat - '0'.toNat) := by
      rw [Decimal.digit?_eq, if_pos digit]
    rw [Nat.ofDigitChars_cons, Nat.mul_comm] at fits
    have pushed : s.pushWhole (c.toNat - '0'.toNat) =
        { s with value := s.value * 10 + (c.toNat - '0'.toNat) } :=
      if_pos (takes_iff.2 ⟨hungry, Nat.le_trans (Decimal.le_ofDigitChars cs _) fits⟩)
    rw [List.filterMap_cons_some read, List.foldl_cons, pushed, Nat.ofDigitChars_cons,
      Nat.mul_comm 10]
    exact ih others hungry fits

/-- A significand is full once a digit did not fit. -/
theorem full_foldl_pushWhole_of_lt (all : ∀ c ∈ cs, c.isDigit = true)
    (small : s.value ≤ Decimal.maxSize)
    (large : Decimal.maxSize < Nat.ofDigitChars 10 cs s.value) :
    ((cs.filterMap Decimal.digit?).foldl Significand.pushWhole s).full = true := by
  induction cs generalizing s with
  | nil => exact absurd small (Nat.not_le.2 large)
  | cons c cs ih =>
    obtain ⟨digit, others⟩ := List.forall_mem_cons.1 all
    have read : Decimal.digit? c = some (c.toNat - '0'.toNat) := by
      rw [Decimal.digit?_eq, if_pos digit]
    rw [Nat.ofDigitChars_cons, Nat.mul_comm] at large
    rw [List.filterMap_cons_some read, List.foldl_cons, Significand.pushWhole]
    split
    · rename_i taken
      exact ih others (takes_iff.1 taken).2 large
    · exact full_foldl_pushWhole rfl _

/-! ## Natural numbers -/

/-- A number with an exponent is not read as a natural number. -/
theorem scaled_ne_natural {value : Nat} {exponent : Int} :
    scaled negative value exponent cs ≠ .ok (.natural k, rest) := by
  unfold scaled signed
  split <;> simp

theorem readExponent_ne_natural : readExponent negative s cs ≠ .ok (.natural k, rest) := by
  unfold readExponent
  dsimp only
  split
  · simp
  split
  · simp
  split
  · exact scaled_ne_natural
  · split <;> simp [signed]

theorem readScale_ne_natural : readScale negative s cs ≠ .ok (.natural k, rest) := by
  unfold readScale
  split
  · exact readExponent_ne_natural
  · exact scaled_ne_natural

theorem readFraction_ne_natural : readFraction negative s cs ≠ .ok (.natural k, rest) := by
  unfold readFraction
  split_ifs
  · simp
  · simp
  · exact readScale_ne_natural

theorem integer_eq_natural_iff : integer negative n = .natural k ↔ negative = false ∧ n = k := by
  unfold integer signed
  cases negative <;> simp
  split <;> simp

/-- A natural number comes of digits that all fit, and nothing goes on with them. -/
theorem readTail_eq_natural_iff (stop : startsWithDigit cs = false) :
    readTail negative s cs = .ok (.natural k, rest) ↔
      negative = false ∧ s.full = false ∧ s.value = k ∧ cs = rest ∧ Closes cs := by
  unfold readTail
  split
  · refine iff_of_false readFraction_ne_natural ?_
    rintro ⟨-, -, -, -, closes⟩
    exact closes.notPoint _ rfl
  · rename_i unpointed
    split
    · rename_i more
      refine iff_of_false readScale_ne_natural ?_
      rintro ⟨-, hungry, -, -, closes⟩
      rw [hungry, closes.notMark] at more
      cases more
    · rename_i done
      have ended : s.full = false ∧ startsWithMark cs = false := by simpa using done
      have closes : Closes cs := ⟨stop, ended.2, unpointed⟩
      simp [integer_eq_natural_iff, ended, closes, and_assoc]

/-- The digits of a whole number are pushed one by one. -/
theorem read_toDigits (stop : startsWithDigit rest = false) :
    read negative (Nat.toDigits 10 n ++ rest) = readTail negative
      (((Nat.toDigits 10 n).filterMap Decimal.digit?).foldl Significand.pushWhole {}) rest := by
  obtain ⟨c, cs, shape, digit, lone⟩ := exists_toDigits n stop
  have apart := takeWhile_isDigit (fun c => Decimal.isDigit_of_mem_toDigits (n := n)) stop
  rw [shape, List.cons_append] at apart ⊢
  rw [read, if_neg (by simp [digit]), if_neg (by simp [lone]), digits, apart.1, apart.2]

/-- What is read as a number starts with the notation of its whole part. -/
theorem exists_whole {x : Number} (taken : read negative cs = .ok (x, rest)) :
    ∃ n after, cs = Nat.toDigits 10 n ++ after ∧ startsWithDigit after = false := by
  unfold read at taken
  split at taken
  · cases taken
  rename_i c cs
  split_ifs at taken with digit again
  have first : isDigit c = true := by simpa using digit
  have stop : startsWithDigit (afterDigits (c :: cs)) = false := by
    have := List.head?_dropWhile_not isDigit (c :: cs)
    unfold startsWithDigit afterDigits
    cases shape : ((c :: cs).dropWhile isDigit).head? <;> simp_all
  have lone : c = '0' → cs.takeWhile isDigit = [] := by
    rintro rfl
    cases cs with
    | nil => rfl
    | cons x cs => simp_all [startsWithDigit]
  have all : ∀ x ∈ c :: cs.takeWhile isDigit, x.isDigit = true := by
    rw [← List.takeWhile_cons_of_pos first]
    exact fun x member => (isDigit_eq x).symm.trans (List.mem_takeWhile_imp member)
  have whole := Decimal.eq_toDigits all lone
  refine ⟨Nat.ofDigitChars 10 (c :: cs.takeWhile isDigit) 0, afterDigits (c :: cs), ?_, stop⟩
  rw [← whole, ← List.takeWhile_cons_of_pos first]
  exact List.takeWhile_append_dropWhile.symm

/-- The texts that are read as a natural number are the notations of those of 64 bits. -/
theorem read_eq_natural_iff : read negative cs = .ok (.natural k, rest) ↔
    negative = false ∧ k ≤ Decimal.maxSize ∧ cs = Nat.toDigits 10 k ++ rest ∧ Closes rest := by
  have digits (n : Nat) : ∀ c ∈ Nat.toDigits 10 n, c.isDigit = true := fun c =>
    Decimal.isDigit_of_mem_toDigits
  have value (n : Nat) : Nat.ofDigitChars 10 (Nat.toDigits 10 n) 0 = n :=
    Nat.ofDigitChars_ten_toDigits
  have exact (n : Nat) (fits : n ≤ Decimal.maxSize) :
      ((Nat.toDigits 10 n).filterMap Decimal.digit?).foldl Significand.pushWhole {} =
        { value := n } := by
    rw [foldl_pushWhole_of_le (digits n) rfl (by rw [value]; exact fits), value]
  constructor
  · intro taken
    obtain ⟨n, after, rfl, stop⟩ := exists_whole taken
    rw [read_toDigits stop, readTail_eq_natural_iff stop] at taken
    obtain ⟨positive, hungry, same, rfl, closes⟩ := taken
    by_cases fits : n ≤ Decimal.maxSize
    · rw [exact n fits] at same
      subst same
      exact ⟨positive, fits, rfl, closes⟩
    · have full := full_foldl_pushWhole_of_lt (s := {}) (digits n) (Nat.zero_le _)
        (by rw [value]; omega)
      rw [hungry] at full
      cases full
  · rintro ⟨rfl, fits, rfl, closes⟩
    have stop := closes.notDigit
    rw [read_toDigits stop, exact k fits, readTail_eq_natural_iff stop]
    exact ⟨rfl, rfl, rfl, rfl, closes⟩

end NumberLiteral

end JobShell.Json
