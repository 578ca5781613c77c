import JobShell.Decimal.Word
import JobShell.Proofs.Decimals
import JobShell.Proofs.Dispatch
import Mathlib.Algebra.Group.Int.Defs
import Mathlib.Algebra.Group.Nat.Defs

/-!
# Exit codes

The code of `exit` is built in a word of 32 bits. The word never wraps around: with few digits it
cannot, whatever they are, and with more of them it is asked at each one. So the code is the integer
that is spelled, up to both limits, and a text that spells no integer within them gives the code 0.

* `Word.push?_eq_some_iff`: one digit, as far as there is room for it.
* `Word.Holds.push`: one of few digits, for which there is always room.
* `code?_eq_some_iff`: which texts are codes.
* `exit_takes_spelled_code`: what `exit` makes of its first argument.
-/

namespace JobShell

namespace Decimal

variable {c : Char} {cs : List Char} {d k n : Nat} {down : Bool} {w w' : Int32} {z : Int}

/-- An integer of 32 bits. -/
def Fits (z : Int) : Prop :=
  minCode ≤ z ∧ z ≤ maxCode

/-- A number, or its negative. -/
def signed (down : Bool) (n : Nat) : Int :=
  if down then -(n : Int) else n

/-- A text without the sign that it starts with. -/
def unsigned : List Char → List Char
  | '-' :: cs => cs
  | '+' :: cs => cs
  | cs => cs

/-- A word holds an integer that fits into it. -/
theorem fits_toInt (w : Int32) : Fits w.toInt := by
  have low := w.le_toInt
  have high := w.toInt_lt
  unfold Fits minCode maxCode
  omega

theorem exists_word (fits : Fits z) : ∃ w : Int32, w.toInt = z := by
  obtain ⟨low, high⟩ := fits
  unfold minCode at low
  unfold maxCode at high
  exact ⟨Int32.ofInt z, Int32.toInt_ofInt_of_le (by omega) (by omega)⟩

theorem Fits.bmod (fits : Fits z) : z.bmod (2 ^ 32) = z := by
  obtain ⟨low, high⟩ := fits
  unfold minCode at low
  unfold maxCode at high
  exact Int.bmod_eq_of_le (by omega) (by omega)

/-- A part of the digits fits if all of them do. -/
theorem Fits.of_le (fits : Fits (signed down n)) (le : k ≤ n) : Fits (signed down k) := by
  unfold Fits signed minCode maxCode at *
  cases down <;> simp only [Bool.false_eq_true, if_false, if_true] at * <;> omega

namespace Word

/-! ## One digit -/

/-- The word wraps around exactly if there is no room for one more digit. -/
theorem overflows_eq_false_iff (value : w.toInt = signed down n) (digit : d < 10) :
    overflows down w d = false ↔ Fits (signed down (10 * n + d)) := by
  have small : (Int32.ofNat d).toBitVec.toInt = d := Int32.toInt_ofNat_of_lt (by omega)
  have ten : (10 : Int32).toBitVec.toInt = 10 := rfl
  have same : w.toBitVec.toInt = signed down n := value
  unfold overflows
  dsimp only
  by_cases large : w.toBitVec.smulOverflow (10 : Int32).toBitVec = true
  · refine iff_of_false (by rw [large, Bool.true_or]; exact Bool.noConfusion) fun fits => ?_
    unfold BitVec.smulOverflow at large
    rw [same, ten] at large
    have room : Fits (signed down (10 * n)) := fits.of_le (Nat.le_add_right _ _)
    unfold Fits signed minCode maxCode at room
    unfold signed at large
    cases down <;> simp at large room <;> omega
  · have product : (w * 10).toBitVec.toInt = signed down n * 10 := by
      rw [Int32.toBitVec_mul, BitVec.toInt_mul_of_not_smulOverflow large, same, ten]
    rw [eq_false_of_ne_true large]
    unfold BitVec.ssubOverflow BitVec.saddOverflow
    rw [product, small]
    unfold Fits signed minCode maxCode
    cases down <;> simp <;> omega

/-- Where it does not wrap around, the word holds the exact number. -/
theorem toInt_push (value : w.toInt = signed down n) (digit : d < 10)
    (room : Fits (signed down (10 * n + d))) :
    (push down w d).toInt = signed down (10 * n + d) := by
  have small : (Int32.ofNat d).toInt = d := Int32.toInt_ofNat_of_lt (by omega)
  have ten : (10 : Int32).toInt = 10 := rfl
  have product : (w * 10).toInt = signed down (10 * n) := by
    have exact : signed down n * 10 = signed down (10 * n) := by
      unfold signed
      cases down <;> simp <;> omega
    rw [Int32.toInt_mul, value, ten, exact, (room.of_le (Nat.le_add_right _ _)).bmod]
  have sum : (push down w d).toInt = (signed down (10 * n + d)).bmod (2 ^ 32) := by
    unfold push
    cases down
    · rw [if_neg Bool.false_ne_true, Int32.toInt_add, product, small]
      rfl
    · rw [if_pos rfl, Int32.toInt_sub, product, small]
      congr 1
      simp [signed]
      omega
  rw [sum, room.bmod]

/-- One more digit is taken exactly if there is room for it. -/
theorem push?_eq_some_iff (value : w.toInt = signed down n) (digit : d < 10) :
    push? down w d = some w' ↔ w'.toInt = signed down (10 * n + d) := by
  unfold push?
  by_cases room : Fits (signed down (10 * n + d))
  · have result := toInt_push value digit room
    rw [if_neg (by simp [(overflows_eq_false_iff value digit).2 room]), ← result, Option.some_inj,
      Int32.toInt_inj]
    exact eq_comm
  · have full : overflows down w d = true := by
      have := mt (overflows_eq_false_iff value digit).1 room
      simpa using this
    rw [if_pos full]
    refine iff_of_false (by simp) fun held => room ?_
    exact held ▸ fits_toInt w'

/-! ## Few digits -/

/-- The word holds a number of at most `k` digits. -/
def Holds (down : Bool) (k : Nat) (w : Int32) : Prop :=
  ∃ n, n < 10 ^ k ∧ w.toInt = signed down n

theorem holds_zero (down : Bool) : Holds down 0 0 := by
  refine ⟨0, by decide, ?_⟩
  cases down <;> rfl

/-- A word of fewer digits than always fit has room for one more. -/
theorem Holds.push (holds : Holds down k w) (digit : d < 10) (few : k < fewDigits) :
    overflows down w d = false ∧ Holds down (k + 1) (push down w d) := by
  obtain ⟨n, bound, value⟩ := holds
  have next : 10 * n + d < 10 ^ (k + 1) := by
    rw [Nat.pow_succ]
    omega
  have total : 10 ^ (k + 1) ≤ 10 ^ fewDigits := Nat.pow_le_pow_right (by decide) few
  have room : Fits (signed down (10 * n + d)) := by
    have limit : 10 ^ fewDigits = 10000000 := rfl
    unfold Fits signed minCode maxCode
    cases down <;> simp <;> omega
  exact ⟨(overflows_eq_false_iff value digit).2 room, 10 * n + d, next, toInt_push value digit room⟩

/-- As long as there are few digits, nothing can overflow. -/
theorem Holds.foldl {ds : List Nat} (holds : Holds down k w) (digits : ∀ d ∈ ds, d < 10)
    (few : k + ds.length ≤ fewDigits) :
    Holds down (k + ds.length) (ds.foldl (Word.push down) w) := by
  induction ds generalizing k w with
  | nil => exact holds
  | cons d ds ih =>
    obtain ⟨first, others⟩ := List.forall_mem_cons.1 digits
    rw [List.length_cons] at few ⊢
    have next := (holds.push first (by omega)).2
    have result := ih next others (by omega)
    rwa [Nat.add_assoc, Nat.add_comm 1] at result

/-- Few digits are taken without a check just as they would be with one. -/
theorem Holds.pushAll (holds : Holds down k w) (few : k + cs.length ≤ fewDigits) :
    Word.pushAll (fun w d => some (Word.push down w d)) w cs = Word.pushAll (push? down) w cs := by
  induction cs generalizing k w with
  | nil => rfl
  | cons c cs ih =>
    rw [List.length_cons] at few
    rw [Word.pushAll, Word.pushAll]
    cases read : digit? c with
    | none => rfl
    | some d =>
      obtain ⟨room, next⟩ := holds.push (digit?_eq_some_iff.1 read).1 (by omega)
      have taken : push? down w d = some (Word.push down w d) := by
        rw [push?, room]
        rfl
      dsimp only
      rw [taken]
      exact ih next (by omega)

/-! ## Any number of digits -/

/-- Digits are taken one by one exactly if there is room for all of them. -/
theorem pushAll_eq_some_iff (value : w.toInt = signed down n) :
    pushAll (push? down) w cs = some w' ↔
      (∀ c ∈ cs, c.isDigit = true) ∧ w'.toInt = signed down (Nat.ofDigitChars 10 cs n) := by
  induction cs generalizing w n with
  | nil =>
    rw [pushAll, Nat.ofDigitChars_nil, ← value, Option.some_inj, Int32.toInt_inj, eq_comm]
    simp
  | cons c cs ih =>
    rw [pushAll, List.forall_mem_cons]
    cases read : digit? c with
    | none =>
      have other : c.isDigit = false := by rw [← isSome_digit?, read]; rfl
      simp [other]
    | some d =>
      obtain ⟨small, rfl⟩ := digit?_eq_some_iff.1 read
      rw [Nat.ofDigitChars_cons_digitChar_of_lt_ten small]
      dsimp only
      cases taken : push? down w d with
      | none =>
        refine iff_of_false (by simp) fun ⟨_, whole⟩ => ?_
        have fits : Fits (signed down (10 * n + d)) :=
          Fits.of_le (whole ▸ fits_toInt w') (le_ofDigitChars cs _)
        obtain ⟨next, held⟩ := exists_word fits
        rw [(push?_eq_some_iff value small).2 held] at taken
        cases taken
      | some next =>
        have held := (push?_eq_some_iff value small).1 taken
        simp [ih held, small]

/-- Digits are read as the number that they are the notation of, as far as there is room for it. -/
theorem ofDigits?_eq_some_iff :
    ofDigits? down cs = some w ↔ ∃ n, digits? cs = some n ∧ w.toInt = signed down n := by
  cases cs with
  | nil => simp [ofDigits?, digits?]
  | cons c cs =>
    have zero : (0 : Int32).toInt = signed down 0 := by cases down <;> rfl
    have checked : ofDigits? down (c :: cs) = pushAll (push? down) 0 (c :: cs) := by
      show (if _ then _ else _) = _
      split
      · rename_i few
        exact (holds_zero down).pushAll (by omega)
      · rfl
    rw [checked, pushAll_eq_some_iff zero]
    show _ ↔ ∃ n, digitsFrom 0 (c :: cs) = some n ∧ _
    constructor
    · rintro ⟨digits, value⟩
      exact ⟨_, digitsFrom_eq_some_iff.2 ⟨digits, rfl⟩, value⟩
    · rintro ⟨n, taken, value⟩
      obtain ⟨digits, rfl⟩ := digitsFrom_eq_some_iff.1 taken
      exact ⟨digits, value⟩

end Word

/-! ## Codes -/

/-- The word is read as the integer that the text is read as without any limit. -/
theorem ofText?_eq_some_iff : Word.ofText? cs = some w ↔ integer? cs = some w.toInt := by
  have map : ∀ down cs, Word.ofDigits? down cs = some w ↔
      (digits? cs).map (signed down) = some w.toInt := by
    intro down cs
    rw [Word.ofDigits?_eq_some_iff, Option.map_eq_some_iff]
    simp only [eq_comm]
  unfold Word.ofText?
  split
  · exact map true _
  · exact map false _
  · rename_i undashed unplussed
    rw [integer?_of_unsigned]
    · exact map false cs
    · intro c first
      obtain ⟨cs, rfl⟩ := List.head?_eq_some_iff.1 first
      exact ⟨fun dash => undashed cs (by rw [dash]), fun plus => unplussed cs (by rw [plus])⟩

/-- A text is a code exactly if it spells an integer of 32 bits, and is the code of that integer. -/
theorem code?_eq_some_iff {word : String} :
    code? word = some z ↔ Fits z ∧ Spells z word.toList := by
  rw [code?, Option.map_eq_some_iff]
  constructor
  · rintro ⟨w, read, rfl⟩
    exact ⟨fits_toInt w, integer?_eq_some_iff.1 (ofText?_eq_some_iff.1 read)⟩
  · rintro ⟨fits, spelled⟩
    obtain ⟨w, rfl⟩ := exists_word fits
    exact ⟨w, ofText?_eq_some_iff.2 (integer?_eq_some_iff.2 spelled), rfl⟩

/-- A spelling is a sign, if there is one, and digits. -/
theorem Spells.digits (spelled : Spells z cs) :
    Decimal.unsigned cs ≠ [] ∧ ∀ c ∈ Decimal.unsigned cs, c.isDigit = true := by
  cases spelled with
  | unsigned zeros n =>
    have digits : ∀ c ∈ List.replicate zeros '0' ++ Nat.toDigits 10 n, c.isDigit = true :=
      fun c => isDigit_of_mem_zeros
    have whole : Decimal.unsigned (List.replicate zeros '0' ++ Nat.toDigits 10 n) =
        List.replicate zeros '0' ++ Nat.toDigits 10 n := by
      unfold Decimal.unsigned
      split
      · rename_i shape
        exact absurd rfl (not_sign_of_isDigit (digits '-' (by rw [shape]; simp))).1
      · rename_i shape
        exact absurd rfl (not_sign_of_isDigit (digits '+' (by rw [shape]; simp))).2
      · rfl
    rw [whole]
    exact ⟨by simp, digits⟩
  | plus zeros n => exact ⟨by simp [Decimal.unsigned], fun c => isDigit_of_mem_zeros⟩
  | minus zeros n => exact ⟨by simp [Decimal.unsigned], fun c => isDigit_of_mem_zeros⟩

theorem Spells.unique {z' : Int} (spelled : Spells z cs) (spelled' : Spells z' cs) : z = z' :=
  Option.some.inj ((integer?_eq_some_iff.2 spelled).symm.trans (integer?_eq_some_iff.2 spelled'))

end Decimal

namespace Session

variable {c : Command} {word : String}

/-- A command that is `exit` asks to leave with the code it spells. -/
theorem dispatch_exit (asked : c.program = "exit") (env : Environment) (meanwhile : List Event)
    (s : Session) :
    s.dispatch env c meanwhile = (s, .error (.exit (Builtin.exitCode c.args))) := by
  have spoken : (c.isBlank || c.isComment) = false := by
    by_contra silent
    have foreign := Command.program_foreign (eq_true_of_ne_false silent)
    rw [asked] at foreign
    exact foreign (by decide)
  rw [dispatch_eq, spoken, asked]
  rfl

/-- A command that asks for `exit` leaves with the integer of 32 bits that its first argument
spells: with a sign or without, and with any number of zeros before the digits, whatever else the
command carries. With any other first argument it leaves with 0; such are a sign alone, an integer
beyond the limits, and a text in which something else than digits comes after the sign. No word
wraps around for want of a check: one of few digits has room for one more. -/
theorem exit_takes_spelled_code (env : Environment) (meanwhile : List Event) (s : Session)
    (asked : c.program = "exit") (first : c.args.head? = some word) :
    (∀ code, Decimal.Fits code → Decimal.Spells code word.toList →
      s.dispatch env c meanwhile = (s, .error (.exit code))) ∧
    ((∀ code, Decimal.Fits code → ¬ Decimal.Spells code word.toList) →
      s.dispatch env c meanwhile = (s, .error (.exit 0))) ∧
    (word ∈ ["+", "-"] ∨ (∃ z, ¬ Decimal.Fits z ∧ Decimal.Spells z word.toList) ∨
        (∃ x ∈ Decimal.unsigned word.toList, x.isDigit = false) →
      s.dispatch env c meanwhile = (s, .error (.exit 0))) ∧
    ∀ down (ds : List Nat) d, (∀ x ∈ d :: ds, x < 10) → ds.length < Decimal.Word.fewDigits →
      Decimal.Word.overflows down (ds.foldl (Decimal.Word.push down) 0) d = false := by
  have left : s.dispatch env c meanwhile =
      (s, .error (.exit ((Decimal.code? word).getD 0))) := by
    rw [dispatch_exit asked, Builtin.exitCode, first]
    rfl
  have other : (∀ code, Decimal.Fits code → ¬ Decimal.Spells code word.toList) →
      s.dispatch env c meanwhile = (s, .error (.exit 0)) := by
    intro unspelled
    have refused : Decimal.code? word = none := by
      by_contra taken
      obtain ⟨code, taken⟩ := Option.ne_none_iff_exists'.1 taken
      obtain ⟨fits, spelled⟩ := Decimal.code?_eq_some_iff.1 taken
      exact unspelled code fits spelled
    rw [left, refused]
    rfl
  refine ⟨fun code fits spelled => ?_, other, fun wrong => other fun code fits spelled => ?_,
    fun down ds d digits few => ?_⟩
  · rw [left, Decimal.code?_eq_some_iff.2 ⟨fits, spelled⟩]
    rfl
  · obtain ⟨present, digits⟩ := spelled.digits
    rcases wrong with lone | ⟨z, beyond, spelled'⟩ | ⟨x, member, strange⟩
    · rcases List.mem_pair.1 lone with rfl | rfl <;> exact present rfl
    · exact beyond (spelled.unique spelled' ▸ fits)
    · rw [digits x member] at strange
      cases strange
  · obtain ⟨digit, others⟩ := List.forall_mem_cons.1 digits
    have held := (Decimal.Word.holds_zero down).foldl others (by omega)
    rw [Nat.zero_add] at held
    exact (held.push digit few).1

/-- The least code, written with zeros before it and among redirections; the number below it; and a
sign without digits. -/
theorem exit_takes_spelled_code_at_limit :
    let s := memoryShell 1
    let least : Command := ⟨["exit", "-0002147483648", "7"], some "in", some "out", true⟩
    let below : Command := { argv := ["exit", "-2147483649"] }
    let lone : Command := { argv := ["exit", "+"] }
    Command.parse (s.context memoryEnvironment) "exit > out -0002147483648 < in 7 &" = .ok least ∧
      s.dispatch memoryEnvironment least [] = (s, .error (.exit (-2147483648))) ∧
      s.dispatch memoryEnvironment below [] = (s, .error (.exit 0)) ∧
      s.dispatch memoryEnvironment lone [] = (s, .error (.exit 0)) := by
  intro s least below lone
  have spelled : Decimal.Spells (-2147483648) "-0002147483648".toList := .minus 3 2147483648
  have beyond : Decimal.Spells (-2147483649) "-2147483649".toList := .minus 0 2147483649
  refine ⟨by decide +kernel, ?_, ?_, ?_⟩
  · exact (exit_takes_spelled_code memoryEnvironment [] s (c := least) rfl rfl).1 _
      ⟨by decide, by decide⟩ spelled
  · exact (exit_takes_spelled_code memoryEnvironment [] s (c := below) rfl rfl).2.2.1
      (.inr (.inl ⟨_, fun fits => absurd fits.1 (by decide), beyond⟩))
  · exact (exit_takes_spelled_code memoryEnvironment [] s (c := lone) rfl rfl).2.2.1
      (.inl (by decide))

end Session

end JobShell
