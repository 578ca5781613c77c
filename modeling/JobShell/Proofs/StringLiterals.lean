import JobShell.Json.Reader
import Mathlib.Logic.Basic
import Mathlib.Tactic.SplitIfs

/-!
# The spellings of a string

Every character but the quote, the backslash and the control characters spells itself; a backslash
and a letter, or the digits of its units, spell some or all. What is read is the content that is
spelled, and every content has a spelling. To be passed over a string has to have the form of one,
with units that need not name a character.

* `read_eq_ok_iff`: the texts that are read, and as what.
* `exists_spells`: every content can be written.
* `skip_of_isLiteral`: what has the form of a string is passed over.
-/

namespace JobShell.Json.StringLiteral

variable {c : Char} {cs rest text content : List Char} {n m : Nat}

/-- What follows the backslash in the escapes of a character: a letter, its unit or its pair of
units. -/
inductive Escapes : Char → List Char → Prop
  | named {letter c : Char} : named? letter = some c → Escapes c [letter]
  | single {c : Char} {digits : List Char} : fourHex? digits = some c.toNat →
    Escapes c ('u' :: digits)
  | pair {c : Char} {n m : Nat} {leading trailing : List Char} :
    fourHex? leading = some n → isLeading n = true →
    fourHex? trailing = some m → isTrailing m = true →
    c.toNat = (n - 0xD800) * 0x400 + (m - 0xDC00) + 0x10000 →
    Escapes c ('u' :: (leading ++ '\\' :: 'u' :: trailing))

/-- Whether a character stands for itself between quotes. -/
def IsPlain (c : Char) : Prop :=
  c ≠ '"' ∧ c ≠ '\\' ∧ isControl c = false

/-- The spellings of a content between quotes. -/
inductive Spells : List Char → List Char → Prop
  | nil : Spells [] []
  | plain {c : Char} {content text : List Char} : IsPlain c → Spells content text →
    Spells (c :: content) (c :: text)
  | escaped {c : Char} {content escape text : List Char} : Escapes c escape → Spells content text →
    Spells (c :: content) ('\\' :: (escape ++ text))

/-- What follows the backslash in an escape, whether its unit names a character or not. -/
inductive IsEscape : List Char → Prop
  | named {letter : Char} : (named? letter).isSome = true → IsEscape [letter]
  | unit {digits : List Char} : (fourHex? digits).isSome = true → IsEscape ('u' :: digits)

/-- What has the form of a string between its quotes. -/
inductive IsLiteral : List Char → Prop
  | nil : IsLiteral []
  | plain {c : Char} {text : List Char} : IsPlain c → IsLiteral text → IsLiteral (c :: text)
  | escaped {escape text : List Char} : IsEscape escape → IsLiteral text →
    IsLiteral ('\\' :: (escape ++ text))

/-! ## Units -/

theorem hexDigit?_lt (read : hexDigit? c = some n) : n < 16 := by
  have bound (low high k : Char) (within : low ≤ k ∧ k ≤ high) : k.toNat - low.toNat ≤
      high.toNat - low.toNat := by
    have : k.toNat ≤ high.toNat := UInt32.le_iff_toNat_le.1 within.2
    omega
  unfold hexDigit? at read
  split_ifs at read with decimal lower upper <;> cases read
  · have := bound _ _ _ decimal
    simp at this ⊢
    omega
  · have := bound _ _ _ lower
    simp at this ⊢
    omega
  · have := bound _ _ _ upper
    simp at this ⊢
    omega

theorem length_of_fourHex? (read : fourHex? cs = some n) : cs.length = 4 := by
  unfold fourHex? at read
  split at read
  · rfl
  · cases read

/-- Four hexadecimal digits are a number below 0x10000. -/
theorem fourHex?_lt (read : fourHex? cs = some n) : n < 0x10000 := by
  unfold fourHex? at read
  split at read
  · rename_i a b c d
    simp only [Option.bind_eq_bind, Option.bind_eq_some_iff, Option.pure_def,
      Option.some.injEq] at read
    obtain ⟨x, first, y, second, z, third, w, fourth, rfl⟩ := read
    have := hexDigit?_lt first
    have := hexDigit?_lt second
    have := hexDigit?_lt third
    have := hexDigit?_lt fourth
    omega
  · cases read

theorem drop_digits (read : fourHex? text = some n) : (text ++ rest).drop 4 = rest := by
  rw [← length_of_fourHex? read, List.drop_left]

theorem unit_eq_ok_iff : unit cs = .ok n ↔ ∃ digits rest, cs = digits ++ rest ∧
    fourHex? digits = some n := by
  constructor
  · intro taken
    unfold unit at taken
    split at taken
    · rename_i read
      cases taken
      exact ⟨cs.take 4, cs.drop 4, (List.take_append_drop 4 cs).symm, read⟩
    · split at taken <;> cases taken
  · rintro ⟨digits, rest, rfl, read⟩
    rw [unit, ← length_of_fourHex? read, List.take_left, read]

/-- The second half of a pair is an escape of its own. -/
theorem trailingUnit_eq_ok_iff : trailingUnit cs = .ok m ↔
    ∃ digits rest, cs = '\\' :: 'u' :: (digits ++ rest) ∧ fourHex? digits = some m ∧
      isTrailing m = true := by
  constructor
  · intro taken
    unfold trailingUnit at taken
    split at taken <;> try cases taken
    rename_i cs
    cases read : unit cs with
    | error e =>
      rw [read] at taken
      cases taken
    | ok k =>
      rw [read] at taken
      dsimp only at taken
      split_ifs at taken with trailing
      cases taken
      obtain ⟨digits, rest, rfl, value⟩ := unit_eq_ok_iff.1 read
      exact ⟨digits, rest, rfl, value, trailing⟩
  · rintro ⟨digits, rest, rfl, read, trailing⟩
    rw [trailingUnit, unit_eq_ok_iff.2 ⟨digits, rest, rfl, read⟩]
    exact if_pos trailing

/-! ## Escapes -/

theorem toNat_ofNat (valid : n.isValidChar) : (Char.ofNat n).toNat = n := by
  rw [Char.ofNat, dif_pos valid]
  rfl

/-- The character that a pair of units stands for. -/
theorem toNat_pairChar (leading : isLeading n = true) (trailing : isTrailing m = true) :
    (pairChar n m).toNat = (n - 0xD800) * 0x400 + (m - 0xDC00) + 0x10000 := by
  simp only [isLeading, isTrailing, Bool.and_eq_true, decide_eq_true_eq] at leading trailing
  apply toNat_ofNat
  right
  omega

/-- A unit that is no half of a pair is a character by itself. -/
theorem toNat_single (small : n < 0x10000) (notLeading : isLeading n = false)
    (notTrailing : isTrailing n = false) : (Char.ofNat n).toNat = n := by
  simp only [isLeading, isTrailing, Bool.and_eq_false_iff, decide_eq_false_iff_not]
    at notLeading notTrailing
  apply toNat_ofNat
  rw [Nat.isValidChar]
  omega

theorem not_surrogate (c : Char) : isLeading c.toNat = false ∧ isTrailing c.toNat = false := by
  have valid : c.toNat.isValidChar := c.valid
  rw [Nat.isValidChar] at valid
  simp only [isLeading, isTrailing, Bool.and_eq_false_iff, decide_eq_false_iff_not]
  omega

theorem not_isTrailing_of_isLeading (leading : isLeading n = true) : isTrailing n = false := by
  simp only [isLeading, isTrailing, Bool.and_eq_true, decide_eq_true_eq, Bool.and_eq_false_iff,
    decide_eq_false_iff_not] at leading ⊢
  omega

/-- The digits of a unit, or of a pair of them, that an escape starts with, are those of a
character. -/
theorem unicodeEscape_eq_ok_iff : unicodeEscape cs = .ok (c, n) ↔
    ∃ text rest, cs = text ++ rest ∧ text.length = n ∧ Escapes c ('u' :: text) := by
  constructor
  · intro taken
    unfold unicodeEscape at taken
    split at taken
    · cases taken
    rename_i k first
    obtain ⟨digits, rest, rfl, read⟩ := unit_eq_ok_iff.1 first
    rw [drop_digits read] at taken
    split_ifs at taken with trailing leading
    · split at taken
      · cases taken
      rename_i m second
      obtain ⟨rfl, rfl⟩ := Prod.mk.inj (Except.ok.inj taken)
      obtain ⟨digits', rest', rfl, read', trailing'⟩ := trailingUnit_eq_ok_iff.1 second
      refine ⟨digits ++ '\\' :: 'u' :: digits', rest', by simp, ?_, ?_⟩
      · simp [length_of_fourHex? read, length_of_fourHex? read']
      · exact .pair read leading read' trailing' (toNat_pairChar leading trailing')
    · cases taken
      have value := toNat_single (fourHex?_lt read) (eq_false_of_ne_true leading)
        (eq_false_of_ne_true trailing)
      exact ⟨digits, rest, rfl, length_of_fourHex? read, .single (value.symm ▸ read)⟩
  · rintro ⟨text, rest, rfl, rfl, escapes⟩
    cases escapes with
    | named named => cases named
    | single read =>
      obtain ⟨notLeading, notTrailing⟩ := not_surrogate c
      rw [unicodeEscape, unit_eq_ok_iff.2 ⟨text, rest, rfl, read⟩]
      simp [notLeading, notTrailing, length_of_fourHex? read]
    | @pair _ n m digits digits' read leading read' trailing value =>
      have second : trailingUnit ('\\' :: 'u' :: (digits' ++ rest)) = .ok m :=
        trailingUnit_eq_ok_iff.2 ⟨digits', rest, rfl, read', trailing⟩
      have same : pairChar n m = c :=
        Char.toNat_inj.1 ((toNat_pairChar leading trailing).trans value.symm)
      rw [unicodeEscape, unit_eq_ok_iff.2 ⟨digits, '\\' :: 'u' :: (digits' ++ rest), by simp, read⟩]
      simp [not_isTrailing_of_isLeading leading, leading, drop_digits read, second, same,
        length_of_fourHex? read, length_of_fourHex? read']

/-- Which escapes are read, and as what. -/
theorem escape_eq_ok_iff : escape cs = .ok (c, n) ↔
    ∃ text rest, cs = text ++ rest ∧ text.length = n ∧ Escapes c text := by
  constructor
  · intro taken
    unfold escape at taken
    split at taken
    · cases taken
    rename_i letter cs
    split at taken
    · rename_i named
      cases taken
      exact ⟨[letter], cs, rfl, rfl, .named named⟩
    · split_ifs at taken with u
      · obtain ⟨⟨x, k⟩, read, same⟩ := map_eq_ok taken
        cases same
        obtain ⟨text, rest, rfl, rfl, escapes⟩ := unicodeEscape_eq_ok_iff.1 read
        subst u
        exact ⟨'u' :: text, rest, rfl, rfl, escapes⟩
  · rintro ⟨text, rest, rfl, rfl, escapes⟩
    have unicode (text : List Char) (escapes : Escapes c ('u' :: text)) :
        escape ('u' :: (text ++ rest)) = .ok (c, text.length + 1) := by
      have unnamed : named? 'u' = none := by decide
      rw [escape, unnamed]
      dsimp only
      rw [if_pos rfl, unicodeEscape_eq_ok_iff.2 ⟨text, rest, rfl, rfl, escapes⟩]
      rfl
    cases escapes with
    | named named =>
      rw [List.singleton_append, escape, named]
      rfl
    | single read => exact unicode _ (.single read)
    | pair read leading read' trailing value =>
      exact unicode _ (.pair read leading read' trailing value)

theorem escapeLength_eq_ok_iff : escapeLength cs = .ok n ↔
    ∃ text rest, cs = text ++ rest ∧ text.length = n ∧ IsEscape text := by
  constructor
  · intro taken
    unfold escapeLength at taken
    split at taken
    · cases taken
    rename_i letter cs
    split_ifs at taken with named u
    · cases taken
      exact ⟨[letter], cs, rfl, rfl, .named named⟩
    · obtain ⟨k, first, same⟩ := map_eq_ok taken
      obtain ⟨digits, rest, rfl, read⟩ := unit_eq_ok_iff.1 first
      subst u same
      refine ⟨'u' :: digits, rest, rfl, ?_, .unit (Option.isSome_of_eq_some read)⟩
      simp [length_of_fourHex? read]
  · rintro ⟨text, rest, rfl, rfl, escapes⟩
    cases escapes with
    | named named =>
      rw [List.singleton_append, escapeLength, if_pos named]
      rfl
    | @unit digits hex =>
      obtain ⟨k, read⟩ := Option.isSome_iff_exists.1 hex
      have unnamed : ¬ (named? 'u').isSome = true := by decide
      rw [List.cons_append, escapeLength, if_neg unnamed, if_pos rfl,
        unit_eq_ok_iff.2 ⟨digits, rest, rfl, read⟩, List.length_cons, length_of_fourHex? read]
      rfl

/-! ## Strings -/

/-- What is read as a string is a spelling of its content, up to the quote behind it. -/
theorem read_eq_ok_iff : read cs = .ok (content, rest) ↔
    ∃ text, Spells content text ∧ cs = text ++ '"' :: rest := by
  constructor
  · intro taken
    fun_induction read cs generalizing content rest with
    | case1 | case3 | case4 | case6 | case7 => cases taken
    | case2 cs =>
      cases taken
      exact ⟨[], .nil, rfl⟩
    | case5 cs c n escaped content' rest' inner apart ih =>
      cases taken
      obtain ⟨text, spelled, after⟩ := ih inner
      obtain ⟨escape, others, rfl, rfl, escapes⟩ := escape_eq_ok_iff.1 escaped
      rw [List.drop_left] at after
      exact ⟨'\\' :: (escape ++ text), .escaped escapes spelled, by simp [after]⟩
    | case8 c cs unquoted unescaped plain content' rest' inner ih =>
      cases taken
      obtain ⟨text, spelled, rfl⟩ := ih inner
      exact ⟨c :: text, .plain ⟨unquoted, unescaped, eq_false_of_ne_true plain⟩ spelled, rfl⟩
  · rintro ⟨text, spelled, rfl⟩
    induction spelled with
    | nil =>
      rw [List.nil_append, read]
      exact if_pos rfl
    | plain plain spelled ih =>
      obtain ⟨unquoted, unescaped, plain⟩ := plain
      rw [List.cons_append, read, if_neg unquoted, if_neg unescaped, if_neg (by simp [plain]), ih]
    | @escaped c content escape text escapes spelled ih =>
      have escaped : StringLiteral.escape (escape ++ (text ++ '"' :: rest)) =
          .ok (c, escape.length) := escape_eq_ok_iff.2 ⟨escape, _, rfl, rfl, escapes⟩
      rw [List.cons_append, List.append_assoc, read, if_neg (by decide), if_pos rfl, escaped]
      dsimp only
      rw [List.drop_left, ih]

/-- What has the form of a string is passed over up to the quote behind it. -/
theorem skip_of_isLiteral (form : IsLiteral text) : skip (text ++ '"' :: rest) = .ok rest := by
  induction form with
  | nil =>
    rw [List.nil_append, skip]
    exact if_pos rfl
  | plain plain form ih =>
    obtain ⟨unquoted, unescaped, plain⟩ := plain
    rw [List.cons_append, skip, if_neg unquoted, if_neg unescaped, if_neg (by simp [plain]), ih]
  | @escaped escape text escapes form ih =>
    have escaped : escapeLength (escape ++ (text ++ '"' :: rest)) = .ok escape.length :=
      escapeLength_eq_ok_iff.2 ⟨escape, _, rfl, rfl, escapes⟩
    rw [List.cons_append, List.append_assoc, skip, if_neg (by decide), if_pos rfl, escaped]
    dsimp only
    rw [List.drop_left, ih]

/-- The spellings of a content have the form of a string. -/
theorem Spells.isLiteral (spelled : Spells content text) : IsLiteral text := by
  induction spelled with
  | nil => exact .nil
  | plain plain spelled ih => exact .plain plain ih
  | escaped escapes spelled ih =>
    cases escapes with
    | named named => exact .escaped (.named (Option.isSome_of_eq_some named)) ih
    | single read => exact .escaped (.unit (Option.isSome_of_eq_some read)) ih
    | pair read leading read' trailing value =>
      -- A pair is two escapes in form.
      have second := IsLiteral.escaped (.unit (Option.isSome_of_eq_some read')) ih
      have first := IsLiteral.escaped (.unit (Option.isSome_of_eq_some read)) second
      simpa using first

instance (c : Char) : Decidable (IsPlain c) :=
  inferInstanceAs (Decidable (c ≠ '"' ∧ c ≠ '\\' ∧ isControl c = false))

/-- A content of characters that stand for themselves spells itself. -/
theorem spells_self (plain : content.all (fun c => decide (IsPlain c)) = true) :
    Spells content content := by
  induction content with
  | nil => exact .nil
  | cons c content ih =>
    rw [List.all_cons, Bool.and_eq_true, decide_eq_true_eq] at plain
    exact .plain plain.1 (ih plain.2)

/-- A control character is spelled by its unit. -/
theorem exists_unit (control : isControl c = true) : ∃ digits, fourHex? digits = some c.toNat := by
  have small : c.toNat < 32 := by
    simpa [isControl, Char.lt_def, UInt32.lt_iff_toNat_lt] using control
  have units : ∀ n < 32, fourHex? ['0', '0', (n / 16).digitChar, (n % 16).digitChar] = some n := by
    decide
  exact ⟨_, units _ small⟩

/-- Every content can be written between quotes. -/
theorem exists_spells (content : List Char) : ∃ text, Spells content text := by
  induction content with
  | nil => exact ⟨[], .nil⟩
  | cons c content ih =>
    obtain ⟨text, spelled⟩ := ih
    by_cases plain : IsPlain c
    · exact ⟨c :: text, .plain plain spelled⟩
    · cases control : isControl c with
      | true =>
        obtain ⟨digits, read⟩ := exists_unit control
        exact ⟨_, .escaped (.single read) spelled⟩
      | false =>
        simp only [IsPlain, control, and_true, not_and_or, not_not] at plain
        rcases plain with rfl | rfl
        · have quote : Escapes '"' ['"'] := .named rfl
          exact ⟨_, .escaped quote spelled⟩
        · have backslash : Escapes '\\' ['\\'] := .named rfl
          exact ⟨_, .escaped backslash spelled⟩

end JobShell.Json.StringLiteral
