import JobShell.Decimal.Integer
import Mathlib.Data.List.Induction
import Mathlib.Tactic.SplitIfs

/-!
# Decimal notation

An integer is written with its digits, any number of zeros before them, and a sign, which only a
negative one needs. What is read is what is written so, and nothing else.

* `digits?_eq_some_iff`: digits are read exactly as the number that they are the notation of.
* `eq_toDigits`: without zeros before them they are the notation of a number itself.
* `integer?_eq_some_iff`: the texts that are read as an integer.
-/

namespace JobShell.Decimal

variable {c : Char} {cs : List Char} {acc d n : Nat}

/-- The spellings of an integer in decimal: its digits with zeros before them, and a sign. -/
inductive Spells : Int → List Char → Prop
  | unsigned (zeros n : Nat) : Spells n (List.replicate zeros '0' ++ Nat.toDigits 10 n)
  | plus (zeros n : Nat) : Spells n ('+' :: (List.replicate zeros '0' ++ Nat.toDigits 10 n))
  | minus (zeros n : Nat) : Spells (-n) ('-' :: (List.replicate zeros '0' ++ Nat.toDigits 10 n))

/-! ## Digits -/

theorem digit?_eq (c : Char) :
    digit? c = if c.isDigit then some (c.toNat - '0'.toNat) else none := by
  have same : ('0' ≤ c ∧ c ≤ '9') ↔ c.isDigit = true := by
    simp [Char.isDigit, Char.le_def]
  rw [digit?]
  simp only [same]

theorem isSome_digit? (c : Char) : (digit? c).isSome = c.isDigit := by
  rw [digit?_eq]
  cases c.isDigit <;> rfl

theorem digit?_eq_some_iff : digit? c = some d ↔ d < 10 ∧ c = d.digitChar := by
  rw [digit?_eq]
  constructor
  · intro read
    split_ifs at read with digit
    obtain rfl := Option.some.inj read
    obtain ⟨low, high⟩ : 48 ≤ c.toNat ∧ c.toNat ≤ 57 := by
      simpa [Char.isDigit, UInt32.le_iff_toNat_le] using digit
    have small : c.toNat - '0'.toNat < 10 := by
      show c.toNat - 48 < 10
      omega
    refine ⟨small, Char.toNat_inj.1 ?_⟩
    rw [Nat.toNat_digitChar_of_lt_ten small]
    exact (Nat.add_sub_of_le low).symm
  · rintro ⟨small, rfl⟩
    rw [if_pos (by simpa using small)]
    exact congrArg some (Nat.toNat_digitChar_sub_48_of_lt_ten small)

/-- A number does not get smaller by more digits. -/
theorem le_ofDigitChars (cs : List Char) (acc : Nat) : acc ≤ Nat.ofDigitChars 10 cs acc := by
  induction cs generalizing acc with
  | nil => exact Nat.le_refl acc
  | cons c cs ih =>
    rw [Nat.ofDigitChars_cons]
    exact Nat.le_trans (by omega) (ih _)

/-! ## Numbers -/

/-- Digits are read from the left, each worth ten times the next. -/
theorem digitsFrom_eq_some_iff : digitsFrom acc cs = some n ↔
    (∀ c ∈ cs, c.isDigit = true) ∧ Nat.ofDigitChars 10 cs acc = n := by
  induction cs generalizing acc with
  | nil => simp [digitsFrom]
  | cons c cs ih =>
    rw [digitsFrom, digit?_eq, Nat.ofDigitChars_cons, List.forall_mem_cons]
    cases digit : c.isDigit with
    | false => simp
    | true => simp [ih, Nat.mul_comm acc]

/-- Digits are zeros and the notation of their value. -/
theorem exists_zeros (present : cs ≠ []) (digits : ∀ c ∈ cs, c.isDigit = true) :
    ∃ zeros, cs = List.replicate zeros '0' ++ Nat.toDigits 10 (Nat.ofDigitChars 10 cs 0) := by
  induction cs using List.reverseRecOn with
  | nil => exact absurd rfl present
  | append_singleton cs c ih =>
    obtain ⟨others, last⟩ := List.forall_mem_append.1 digits
    have digit : c.isDigit = true := last c List.mem_cons_self
    obtain ⟨small, shape⟩ := digit?_eq_some_iff.1 ((digit?_eq c).trans (if_pos digit))
    generalize c.toNat - '0'.toNat = d at small shape
    subst shape
    have whole : Nat.ofDigitChars 10 (cs ++ [d.digitChar]) 0 =
        10 * Nat.ofDigitChars 10 cs 0 + d := by
      rw [Nat.ofDigitChars_append, Nat.ofDigitChars_cons_digitChar_of_lt_ten small,
        Nat.ofDigitChars_nil]
    rw [whole]
    by_cases first : cs = []
    · subst first
      exact ⟨0, by simp [Nat.toDigits_of_lt_base small]⟩
    · obtain ⟨zeros, shape⟩ := ih first others
      generalize Nat.ofDigitChars 10 cs 0 = value at shape
      rcases Nat.eq_zero_or_pos value with rfl | positive
      · refine ⟨zeros + 1, ?_⟩
        rw [shape, Nat.toDigits_zero, Nat.mul_zero, Nat.zero_add, Nat.toDigits_of_lt_base small,
          List.replicate_succ']
      · refine ⟨zeros, ?_⟩
        rw [shape, List.append_assoc, ← Nat.toDigits_append_toDigits (by decide) positive small,
          Nat.toDigits_of_lt_base small]

theorem ofDigitChars_zeros (zeros n : Nat) :
    Nat.ofDigitChars 10 (List.replicate zeros '0' ++ Nat.toDigits 10 n) 0 = n := by
  rw [Nat.ofDigitChars_append, Nat.ofDigitChars_replicate_zero, Nat.mul_zero,
    Nat.ofDigitChars_ten_toDigits]

theorem isDigit_of_mem_toDigits (member : c ∈ Nat.toDigits 10 n) : c.isDigit = true :=
  Nat.isDigit_of_mem_toDigits (by decide) (by decide) member

theorem isDigit_of_mem_zeros {zeros : Nat}
    (member : c ∈ List.replicate zeros '0' ++ Nat.toDigits 10 n) : c.isDigit = true := by
  rcases List.mem_append.1 member with zero | digit
  · rw [List.eq_of_mem_replicate zero]
    rfl
  · exact isDigit_of_mem_toDigits digit

/-- Digits are read exactly as the number whose notation they are, zeros before it apart. -/
theorem digits?_eq_some_iff :
    digits? cs = some n ↔ ∃ zeros, cs = List.replicate zeros '0' ++ Nat.toDigits 10 n := by
  have read : cs ≠ [] → digits? cs = digitsFrom 0 cs := by
    intro present
    cases cs with
    | nil => exact absurd rfl present
    | cons => rfl
  constructor
  · intro taken
    have present : cs ≠ [] := by
      rintro rfl
      cases taken
    obtain ⟨digits, rfl⟩ := digitsFrom_eq_some_iff.1 ((read present).symm.trans taken)
    exact exists_zeros present digits
  · rintro ⟨zeros, rfl⟩
    rw [read (by simp), digitsFrom_eq_some_iff]
    exact ⟨fun c => isDigit_of_mem_zeros, ofDigitChars_zeros zeros n⟩

/-- Digits that do not start with a zero, unless it is the only one, are the notation of their
value. -/
theorem eq_toDigits (digits : ∀ x ∈ c :: cs, x.isDigit = true) (lone : c = '0' → cs = []) :
    c :: cs = Nat.toDigits 10 (Nat.ofDigitChars 10 (c :: cs) 0) := by
  obtain ⟨zeros, shape⟩ := exists_zeros (by simp) digits
  cases zeros with
  | zero => exact shape
  | succ zeros =>
    rw [List.replicate_succ, List.cons_append] at shape
    obtain ⟨rfl, rest⟩ := List.cons.inj shape
    rw [lone rfl] at rest
    simp at rest

/-- The notation of a number starts with a zero only if it is zero. -/
theorem eq_nil_of_toDigits (shape : Nat.toDigits 10 n = '0' :: cs) : cs = [] := by
  induction n using Nat.strongRecOn generalizing cs with
  | ind n ih =>
    rw [Nat.toDigits_eq_if (by decide)] at shape
    split at shape
    · exact (List.cons.inj shape).2.symm
    · rename_i large
      have positive : 0 < n / 10 := by omega
      cases leading : Nat.toDigits 10 (n / 10) with
      | nil => simp at leading
      | cons first others =>
        rw [leading, List.cons_append] at shape
        obtain ⟨rfl, -⟩ := List.cons.inj shape
        obtain rfl := ih (n / 10) (by omega) leading
        have value := Nat.ofDigitChars_ten_toDigits (n := n / 10)
        rw [leading] at value
        have : n / 10 = 0 := value.symm
        omega

/-! ## Integers -/

/-- A text that does not start with a sign is read as digits. -/
theorem integer?_of_unsigned (unsigned : ∀ c ∈ cs.head?, c ≠ '-' ∧ c ≠ '+') :
    integer? cs = (digits? cs).map fun (n : Nat) => (n : Int) := by
  unfold integer?
  split
  · exact absurd rfl (unsigned '-' rfl).1
  · unfold natural?
    split
    · exact absurd rfl (unsigned '+' rfl).2
    · rfl

theorem not_sign_of_isDigit (digit : c.isDigit = true) : c ≠ '-' ∧ c ≠ '+' := by
  constructor <;>
  · rintro rfl
    cases digit

/-- A text is read as an integer exactly if it spells it. -/
theorem integer?_eq_some_iff {z : Int} : integer? cs = some z ↔ Spells z cs := by
  constructor
  · intro read
    unfold integer? at read
    split at read
    · obtain ⟨n, taken, rfl⟩ := Option.map_eq_some_iff.1 read
      obtain ⟨zeros, rfl⟩ := digits?_eq_some_iff.1 taken
      exact .minus zeros n
    · obtain ⟨n, taken, rfl⟩ := Option.map_eq_some_iff.1 read
      unfold natural? at taken
      split at taken <;> obtain ⟨zeros, rfl⟩ := digits?_eq_some_iff.1 taken
      · exact .plus zeros n
      · exact .unsigned zeros n
  · intro spelled
    cases spelled with
    | unsigned zeros n =>
      have unsigned : ∀ c ∈ (List.replicate zeros '0' ++ Nat.toDigits 10 n).head?,
          c ≠ '-' ∧ c ≠ '+' := fun c first =>
        not_sign_of_isDigit (isDigit_of_mem_zeros (List.mem_of_mem_head? first))
      rw [integer?_of_unsigned unsigned, digits?_eq_some_iff.2 ⟨zeros, rfl⟩]
      rfl
    | plus zeros n => exact Option.map_eq_some_iff.2 ⟨n, digits?_eq_some_iff.2 ⟨zeros, rfl⟩, rfl⟩
    | minus zeros n => exact Option.map_eq_some_iff.2 ⟨n, digits?_eq_some_iff.2 ⟨zeros, rfl⟩, rfl⟩

end JobShell.Decimal
