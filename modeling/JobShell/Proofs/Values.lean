import JobShell.Json.Skip
import JobShell.Proofs.NumberLiterals
import JobShell.Proofs.StringLiterals

/-!
# The values of JSON

A value is a word, a number, a string, or a container with entries between commas, and between
tokens there may be white space. Every value is passed over up to its end, however deep it is. A
value is read as a text exactly if it is a string that spells it, and as a size exactly if it is the
notation of a natural number of 64 bits.

* `passes_of_wellFormed`: what a value and what the rest of a container do to a passage.
* `skip_of_wellFormed`: a value is passed over.
* `readString_eq_ok_iff`, `readSize_eq_ok_iff`: the values that are read as a text and as a size.
-/

namespace JobShell.Json

/-- White space between tokens. -/
structure Gap where
  text : List Char := []
  spaces : ∀ c ∈ text, isSpace c = true := by simp

/-- The character that starts a container. -/
def Container.opener : Container → Char
  | .array => '['
  | .object => '\x7b'

/-- What comes before the value of an entry: in an object its key and a colon. -/
inductive Leads : Container → List Char → Prop
  | element : Leads .array []
  | member {key : List Char} (before after : Gap) : StringLiteral.IsLiteral key →
    Leads .object ('"' :: (key ++ '"' :: (before.text ++ ':' :: after.text)))

/-- The parts of a document: a value, and what follows an entry of a container up to its end. -/
inductive Phrase where
  | value
  | tail (inner : Container)

/-- The form of the parts of a document. -/
inductive WellFormed : Phrase → List Char → Prop
  | word {text : List Char} :
    text ∈ [['n', 'u', 'l', 'l'], ['t', 'r', 'u', 'e'], ['f', 'a', 'l', 's', 'e']] →
    WellFormed .value text
  | number (n : Numeral) : WellFormed .value n.text
  | string {text : List Char} : StringLiteral.IsLiteral text →
    WellFormed .value ('"' :: (text ++ ['"']))
  | empty (inner : Container) (gap : Gap) :
    WellFormed .value (inner.opener :: (gap.text ++ [inner.closer]))
  | filled {inner : Container} {lead value tail : List Char} (gap : Gap) : Leads inner lead →
    WellFormed .value value → WellFormed (.tail inner) tail →
    WellFormed .value (inner.opener :: (gap.text ++ (lead ++ (value ++ tail))))
  | closed (inner : Container) (gap : Gap) :
    WellFormed (.tail inner) (gap.text ++ [inner.closer])
  | next {inner : Container} {lead value tail : List Char} (before after : Gap) :
    Leads inner lead → WellFormed .value value → WellFormed (.tail inner) tail →
    WellFormed (.tail inner) (before.text ++ ',' :: (after.text ++ (lead ++ (value ++ tail))))

variable {c : Char} {cs rest text lead value tail : List Char} {outer : List Container}
variable {inner : Container} {gap : Gap}

/-! ## White space -/

/-- White space before other text is passed over. -/
theorem trim_gap (gap : Gap) (cs : List Char) : trim (gap.text ++ cs) = trim cs := by
  rw [trim, List.dropWhile_append_of_pos gap.spaces, trim]

theorem trim_cons (solid : isSpace c = false) : trim (c :: cs) = c :: cs := by
  rw [trim, List.dropWhile_cons, if_neg (by simp [solid])]

theorem trim_gap_cons (gap : Gap) (solid : isSpace c = false) :
    trim (gap.text ++ c :: cs) = c :: cs := by
  rw [trim_gap, trim_cons solid]

/-- A numeral may end before white space and before what follows a value. -/
theorem closes_gap_cons (gap : Gap) (mark : c = ',' ∨ c = ']' ∨ c = '\x7d') :
    Closes (gap.text ++ c :: rest) := by
  obtain ⟨text, spaces⟩ := gap
  cases text with
  | nil => rcases mark with rfl | rfl | rfl <;> exact closes_cons rfl (by decide) (by decide)
  | cons x text =>
    have space : ((x = ' ' ∨ x = '\n') ∨ x = '\t') ∨ x = '\r' := by
      simpa [isSpace] using spaces x List.mem_cons_self
    rcases space with ((rfl | rfl) | rfl) | rfl <;> exact closes_cons rfl (by decide) (by decide)

theorem Container.mark_closer (inner : Container) :
    inner.closer = ',' ∨ inner.closer = ']' ∨ inner.closer = '\x7d' := by
  cases inner <;> simp [closer]

theorem Container.isSpace_closer (inner : Container) : isSpace inner.closer = false := by
  cases inner <;> rfl

/-! ## Starting on a value -/

theorem skipStart_gap (gap : Gap) (cs : List Char) :
    skipStart outer (gap.text ++ cs) = skipStart outer cs := by
  rw [skipStart, skipStart, trim_gap]

/-- An opening bracket puts its container on the stack. -/
theorem skipStart_opener (inner : Container) (cs : List Char) :
    skipStart outer (inner.opener :: cs) = .ok ⟨true, inner :: outer, cs⟩ := by
  cases inner <;> rfl

/-- The first characters of scalars. -/
theorem skipStart_scalar (solid : isSpace c = false) (scalar : c ≠ '[' ∧ c ≠ '\x7b')
    (skipped : skipScalar c cs = .ok rest) :
    skipStart outer (c :: cs) = .ok ⟨false, outer, rest⟩ := by
  rw [skipStart, trim_cons solid]
  dsimp only
  rw [if_neg scalar.1, if_neg scalar.2, skipped]
  rfl

theorem ne_of_isDigit {x : Char} (digit : c.isDigit = true) (other : x.isDigit = false) :
    c ≠ x := by
  rintro rfl
  rw [digit] at other
  cases other

theorem isSpace_of_isDigit (digit : c.isDigit = true) : isSpace c = false := by
  simp [isSpace, ne_of_isDigit digit]

/-- What begins with a digit is skipped as a number. -/
theorem skipScalar_digit (digit : c.isDigit = true) :
    skipScalar c cs = NumberLiteral.skip (c :: cs) := by
  rw [skipScalar, if_neg (ne_of_isDigit digit rfl), if_neg (ne_of_isDigit digit rfl),
    if_neg (ne_of_isDigit digit rfl), if_neg (ne_of_isDigit digit rfl),
    if_pos ((NumberLiteral.isDigit_eq c).trans digit)]

/-- A numeral starts with a minus sign or a digit. -/
theorem Numeral.text_cases (n : Numeral) : n.text = '-' :: n.unsigned ∨
    ∃ c cs, n.text = c :: cs ∧ c.isDigit = true ∧ n.unsigned = c :: cs := by
  unfold text
  split
  · exact .inl rfl
  · cases shape : Nat.toDigits 10 n.whole with
    | nil => simp at shape
    | cons c cs =>
      have digit := Decimal.isDigit_of_mem_toDigits (c := c) (n := n.whole) (by simp [shape])
      refine .inr ⟨c, cs ++ n.tail, ?_, digit, ?_⟩ <;> rw [unsigned, shape, List.cons_append]

/-! ## Entries -/

/-- A value starts with a character of its own. -/
theorem exists_first {phrase : Phrase} (wellFormed : WellFormed phrase text)
    (whole : phrase = .value) : ∃ c cs, text = c :: cs ∧ isSpace c = false ∧
      c ≠ ',' ∧ c ≠ ']' ∧ c ≠ '\x7d' := by
  cases wellFormed with
  | word word =>
    simp only [List.mem_cons, List.not_mem_nil, or_false] at word
    rcases word with rfl | rfl | rfl <;> exact ⟨_, _, rfl, by decide⟩
  | number n =>
    rcases n.text_cases with shape | ⟨c, cs, shape, digit, -⟩
    · exact ⟨_, _, shape, by decide⟩
    · exact ⟨_, _, shape, isSpace_of_isDigit digit, ne_of_isDigit digit rfl,
        ne_of_isDigit digit rfl, ne_of_isDigit digit rfl⟩
  | string form => exact ⟨_, _, rfl, by decide⟩
  | empty inner gap => exact ⟨_, _, rfl, by cases inner <;> decide⟩
  | @filled inner => exact ⟨_, _, rfl, by cases inner <;> decide⟩
  | closed => cases whole
  | next => cases whole

theorem readColon_gap (gap : Gap) (cs : List Char) :
    readColon (gap.text ++ ':' :: cs) = .ok cs := by
  rw [readColon, trim_gap_cons gap (by decide)]
  exact if_pos rfl

/-- The start on an entry is the start on its value. -/
theorem skipEntry_leads (gap : Gap) (leads : Leads inner lead) (cs : List Char) :
    skipEntry inner outer (gap.text ++ (lead ++ cs)) = skipStart (inner :: outer) cs := by
  cases leads with
  | element => exact skipStart_gap gap cs
  | @member key before after form =>
    have skipped : skipKey (gap.text ++
        ('"' :: (key ++ '"' :: (before.text ++ ':' :: after.text)) ++ cs)) =
          .ok (after.text ++ cs) := by
      rw [List.cons_append, skipKey, trim_gap_cons gap (by decide)]
      dsimp only
      rw [if_pos rfl, List.append_assoc, List.cons_append, List.append_assoc, List.cons_append,
        StringLiteral.skip_of_isLiteral form]
      exact readColon_gap before _
    rw [skipEntry, skipped]
    exact skipStart_gap after cs

/-- The first entry of a container does not end it. -/
theorem skipOn_leads (gap : Gap) (leads : Leads inner lead) (wellFormed : WellFormed .value value)
    (cs : List Char) : skipOn true inner outer (gap.text ++ (lead ++ (value ++ cs))) =
      skipStart (inner :: outer) (value ++ cs) := by
  have first : ∃ c r, lead ++ (value ++ cs) = c :: r ∧ isSpace c = false ∧ c ≠ inner.closer := by
    cases leads with
    | element =>
      obtain ⟨c, r, rfl, solid, -, apart, -⟩ := exists_first wellFormed rfl
      exact ⟨c, _, rfl, solid, apart⟩
    | member => exact ⟨_, _, rfl, by decide, by decide⟩
  obtain ⟨c, r, shape, solid, apart⟩ := first
  have entry : skipEntry inner outer (lead ++ (value ++ cs)) =
      skipStart (inner :: outer) (value ++ cs) := skipEntry_leads {} leads (value ++ cs)
  rw [← entry, shape, skipOn, trim_gap_cons gap solid]
  dsimp only
  rw [if_neg apart, if_pos rfl]

/-- A comma goes on to the next entry. -/
theorem skipOn_comma (before after : Gap) (leads : Leads inner lead) (cs : List Char) :
    skipOn false inner outer (before.text ++ ',' :: (after.text ++ (lead ++ cs))) =
      skipStart (inner :: outer) cs := by
  have apart : ',' ≠ inner.closer := by cases inner <;> decide
  rw [skipOn, trim_gap_cons before (by decide)]
  dsimp only
  rw [if_neg apart, if_neg (by decide), if_pos rfl, skipEntry_leads after leads]

/-- A closing bracket takes its container off the stack. -/
theorem skipOn_closer (opened : Bool) (gap : Gap) (cs : List Char) :
    skipOn opened inner outer (gap.text ++ inner.closer :: cs) = .ok ⟨false, outer, cs⟩ := by
  rw [skipOn, trim_gap_cons gap inner.isSpace_closer]
  exact if_pos rfl

theorem skipFrom_of_skipOn {opened : Bool} {p : Passage}
    (step : skipOn opened inner outer cs = .ok p) :
    skipFrom opened (inner :: outer) cs = skipFrom p.opened p.outer p.rest := by
  rw [skipFrom]
  split
  · rename_i failed
    rw [step] at failed
    cases failed
  · rename_i p' stepped
    rw [step] at stepped
    cases stepped
    rfl

/-! ## Whole values -/

/-- What a part of a document does to a passage: a value is passed over, and what follows an entry
ends its container. -/
def Passes : Phrase → List Char → Prop
  | .value, text => ∀ outer rest, Closes rest → ∃ p, skipStart outer (text ++ rest) = .ok p ∧
      skipFrom p.opened p.outer p.rest = skipFrom false outer rest
  | .tail inner, text => ∀ outer rest,
      skipFrom false (inner :: outer) (text ++ rest) = skipFrom false outer rest

theorem passes_scalar (solid : isSpace c = false) (scalar : c ≠ '[' ∧ c ≠ '\x7b')
    (skipped : ∀ rest, Closes rest → skipScalar c (cs ++ rest) = .ok rest) :
    Passes .value (c :: cs) :=
  fun _ rest closes => ⟨_, skipStart_scalar solid scalar (skipped rest closes), rfl⟩

theorem passes_number (n : Numeral) : Passes .value n.text := by
  rcases n.text_cases with shape | ⟨c, cs, shape, digit, unsigned⟩
  · rw [shape]
    refine passes_scalar (by decide) (by decide) fun rest closes => ?_
    simpa [skipScalar] using NumberLiteral.skip_unsigned n closes
  · rw [shape]
    refine passes_scalar (isSpace_of_isDigit digit)
      ⟨ne_of_isDigit digit rfl, ne_of_isDigit digit rfl⟩ fun rest closes => ?_
    rw [skipScalar_digit digit, ← List.cons_append, ← unsigned]
    exact NumberLiteral.skip_unsigned n closes

/-- What comes behind an entry does not go on with a number in it. -/
theorem closes_tail {phrase : Phrase} (wellFormed : WellFormed phrase text)
    (after : phrase = .tail inner) : Closes (text ++ rest) := by
  cases wellFormed with
  | closed inner gap =>
    rw [List.append_assoc]
    exact closes_gap_cons gap inner.mark_closer
  | next before =>
    rw [List.append_assoc]
    exact closes_gap_cons before (.inl rfl)
  | word | number | string | empty | filled => cases after

/-- By induction on the form: an entry leaves a passage in the container that it is in. -/
theorem passes_of_wellFormed {phrase : Phrase} (wellFormed : WellFormed phrase text) :
    Passes phrase text := by
  induction wellFormed with
  | word word =>
    simp only [List.mem_cons, List.not_mem_nil, or_false] at word
    rcases word with rfl | rfl | rfl <;>
      exact passes_scalar (by decide) (by decide) fun _ _ => by simp [skipScalar, skipWord]
  | number n => exact passes_number n
  | @string text form =>
    refine passes_scalar (by decide) (by decide) fun rest _ => ?_
    rw [List.append_assoc]
    exact StringLiteral.skip_of_isLiteral form
  | empty inner gap =>
    intro outer rest closes
    rw [List.cons_append, List.append_assoc]
    exact ⟨_, skipStart_opener inner _, skipFrom_of_skipOn (skipOn_closer true gap rest)⟩
  | @filled inner lead value tail gap leads value' tail' ihValue ihTail =>
    intro outer rest closes
    simp only [List.cons_append, List.append_assoc]
    obtain ⟨p, started, after⟩ := ihValue (inner :: outer) (tail ++ rest) (closes_tail tail' rfl)
    have step := (skipOn_leads gap leads value' (tail ++ rest)).trans started
    refine ⟨_, skipStart_opener inner _, ?_⟩
    rw [skipFrom_of_skipOn step, after, ihTail]
  | closed inner gap =>
    intro outer rest
    rw [List.append_assoc]
    exact skipFrom_of_skipOn (skipOn_closer false gap rest)
  | @next inner lead value tail before between leads value' tail' ihValue ihTail =>
    intro outer rest
    obtain ⟨p, started, after⟩ := ihValue (inner :: outer) (tail ++ rest) (closes_tail tail' rfl)
    have step := (skipOn_comma before between leads (value ++ (tail ++ rest))).trans started
    simp only [List.append_assoc, List.cons_append]
    rw [skipFrom_of_skipOn step, after, ihTail]

/-- A value is passed over, with the white space before it. -/
theorem skip_of_wellFormed (gap : Gap) (wellFormed : WellFormed .value text)
    (closes : Closes rest) : skip (gap.text ++ (text ++ rest)) = .ok rest := by
  obtain ⟨p, started, after⟩ := passes_of_wellFormed wellFormed [] rest closes
  rw [skip, skipStart_gap, started]
  dsimp only
  rw [after, skipFrom]

/-! ## Texts and sizes -/

/-- All that the head of a value can be. -/
inductive Headed (c : Char) (cs rest : List Char) : Head → Prop
  | null : Headed c cs rest .null
  | boolean (b : Bool) : Headed c cs rest (.boolean b)
  | negative {x : Number} : NumberLiteral.read true cs = .ok (x, rest) →
    Headed c cs rest (.number x)
  | number {x : Number} : NumberLiteral.read false (c :: cs) = .ok (x, rest) →
    Headed c cs rest (.number x)
  | string {content : List Char} : c = '"' → StringLiteral.read cs = .ok (content, rest) →
    Headed c cs rest (.string (String.ofList content))
  | array : Headed c cs rest .array
  | object : Headed c cs rest .object

/-- What the first character of a value says of the value. -/
theorem headed_of_headFrom {head : Head} (taken : headFrom c cs = .ok (head, rest)) :
    Headed c cs rest head := by
  unfold headFrom at taken
  split at taken
  · obtain ⟨_, -, same⟩ := map_eq_ok taken
    cases same
    exact .null
  split at taken
  · obtain ⟨_, -, same⟩ := map_eq_ok taken
    cases same
    exact .boolean true
  split at taken
  · obtain ⟨_, -, same⟩ := map_eq_ok taken
    cases same
    exact .boolean false
  split at taken
  · obtain ⟨_, read, same⟩ := map_eq_ok taken
    cases same
    exact .negative read
  split at taken
  · obtain ⟨_, read, same⟩ := map_eq_ok taken
    cases same
    exact .number read
  split at taken
  · rename_i quote
    obtain ⟨_, read, same⟩ := map_eq_ok taken
    cases same
    exact .string quote read
  split at taken
  · cases taken
    exact .array
  split at taken
  · cases taken
    exact .object
  · cases taken

/-- A value is read as a text only if it is a string literal. -/
theorem headFrom_eq_string_iff {s : String} : headFrom c cs = .ok (.string s, rest) ↔
    c = '"' ∧ StringLiteral.read cs = .ok (s.toList, rest) := by
  constructor
  · intro taken
    generalize shape : Head.string s = head at taken
    cases headed_of_headFrom taken with
    | string quote read =>
      cases shape
      exact ⟨quote, by simpa using read⟩
    | null | boolean | negative | number | array | object => cases shape
  · rintro ⟨rfl, read⟩
    have other : NumberLiteral.isDigit '"' = false := by decide
    simp [headFrom, other, read, Except.map]

theorem headFrom_digit (digit : c.isDigit = true) :
    headFrom c cs = (NumberLiteral.read false (c :: cs)).map fun (n, r) => (.number n, r) := by
  rw [headFrom, if_neg (ne_of_isDigit digit rfl), if_neg (ne_of_isDigit digit rfl),
    if_neg (ne_of_isDigit digit rfl), if_neg (ne_of_isDigit digit rfl),
    if_pos ((NumberLiteral.isDigit_eq c).trans digit)]

/-- A value is read as a natural number only if it is one that fits into a machine word. -/
theorem headFrom_eq_natural_iff {n : Nat} : headFrom c cs = .ok (.number (.natural n), rest) ↔
    n ≤ Decimal.maxSize ∧ c :: cs = Nat.toDigits 10 n ++ rest ∧ Closes rest := by
  constructor
  · intro taken
    generalize shape : Head.number (.natural n) = head at taken
    cases headed_of_headFrom taken with
    | negative read =>
      cases shape
      cases (NumberLiteral.read_eq_natural_iff.1 read).1
    | number read =>
      cases shape
      exact (NumberLiteral.read_eq_natural_iff.1 read).2
    | null | boolean | string | array | object => cases shape
  · intro written
    have digit : c.isDigit = true := by
      obtain ⟨-, shape, -⟩ := written
      cases whole : Nat.toDigits 10 n with
      | nil => simp at whole
      | cons x xs =>
        rw [whole] at shape
        obtain ⟨rfl, -⟩ := List.cons.inj shape
        exact Decimal.isDigit_of_mem_toDigits (n := n) (by simp [whole])
    rw [headFrom_digit digit, NumberLiteral.read_eq_natural_iff.2 ⟨rfl, written⟩]
    rfl

/-- A text is read as what a string spells. -/
theorem readString_eq_ok_iff {s : String} : readString cs = .ok (s, rest) ↔
    ∃ text, StringLiteral.Spells s.toList text ∧ trim cs = '"' :: (text ++ '"' :: rest) := by
  have head : readString cs = .ok (s, rest) ↔ readHead cs = .ok (.string s, rest) := by
    unfold readString
    split <;> simp_all
  rw [head]
  unfold readHead
  cases shape : trim cs with
  | nil => simp
  | cons c r =>
    dsimp only
    rw [headFrom_eq_string_iff, StringLiteral.read_eq_ok_iff]
    simp only [List.cons.injEq]
    exact ⟨fun ⟨quote, text, spelled, same⟩ => ⟨text, spelled, quote, same⟩,
      fun ⟨text, spelled, quote, same⟩ => ⟨quote, text, spelled, same⟩⟩

/-- A size is read as the number whose notation is there. -/
theorem readSize_eq_ok_iff {n : Nat} : readSize cs = .ok (n, rest) ↔
    n ≤ Decimal.maxSize ∧ trim cs = Nat.toDigits 10 n ++ rest ∧ Closes rest := by
  have head : readSize cs = .ok (n, rest) ↔ readHead cs = .ok (.number (.natural n), rest) := by
    unfold readSize
    split <;> simp_all
  rw [head]
  unfold readHead
  cases shape : trim cs with
  | nil =>
    refine iff_of_false (by simp) ?_
    rintro ⟨-, same, -⟩
    simp at same
  | cons c r => exact headFrom_eq_natural_iff

/-! ## Values as texts and sizes -/

/-- A value that is the string of a text. -/
def IsText (s : String) (value : List Char) : Prop :=
  ∃ text, StringLiteral.Spells s.toList text ∧ value = '"' :: (text ++ ['"'])

/-- A value that is the notation of a natural number of 64 bits. -/
def IsSize (n : Nat) (value : List Char) : Prop :=
  n ≤ Decimal.maxSize ∧ value = Nat.toDigits 10 n

theorem trim_value (gap : Gap) (wellFormed : WellFormed .value value) :
    trim (gap.text ++ (value ++ rest)) = value ++ rest := by
  obtain ⟨c, cs, rfl, solid, -⟩ := exists_first wellFormed rfl
  exact trim_gap_cons gap solid

/-- A string literal is passed over up to its closing quote. -/
theorem skip_string (form : StringLiteral.IsLiteral text) :
    skip ('"' :: (text ++ '"' :: rest)) = .ok rest := by
  have skipped : skipScalar '"' (text ++ '"' :: rest) = .ok rest :=
    StringLiteral.skip_of_isLiteral form
  rw [skip, skipStart_scalar (by decide) (by decide) skipped]
  dsimp only
  rw [skipFrom]

theorem wellFormed_toDigits (n : Nat) : WellFormed .value (Nat.toDigits 10 n) := by
  have shape : (Numeral.mk false n none none).text = Nat.toDigits 10 n := List.append_nil _
  exact shape ▸ .number _

theorem skip_size (closes : Closes rest) (n : Nat) : skip (Nat.toDigits 10 n ++ rest) = .ok rest :=
  skip_of_wellFormed {} (wellFormed_toDigits n) closes

/-- Where two readers of a value agree, they agree on its end. -/
theorem eq_of_skip {r other : List Char} (wellFormed : WellFormed .value value)
    (closes : Closes rest) (same : value ++ rest = other ++ r)
    (skipped : skip (other ++ r) = .ok r) :
    rest = r ∧ value = other := by
  have passed := skip_of_wellFormed {} wellFormed closes
  rw [List.nil_append, same, skipped] at passed
  cases passed
  exact ⟨rfl, List.append_cancel_right same⟩

/-- A value is taken for a text exactly if it is one. -/
theorem readString_value_iff {s : String} {r : List Char} (gap : Gap)
    (wellFormed : WellFormed .value value) (closes : Closes rest) :
    readString (gap.text ++ (value ++ rest)) = .ok (s, r) ↔ r = rest ∧ IsText s value := by
  rw [readString_eq_ok_iff, trim_value gap wellFormed]
  constructor
  · rintro ⟨text, spelled, same⟩
    have whole : value ++ rest = ('"' :: (text ++ ['"'])) ++ r := by simpa using same
    have skipped : skip ('"' :: (text ++ '"' :: r)) = .ok r := skip_string spelled.isLiteral
    obtain ⟨rfl, rfl⟩ := eq_of_skip wellFormed closes whole (by simpa using skipped)
    exact ⟨rfl, text, spelled, rfl⟩
  · rintro ⟨rfl, text, spelled, rfl⟩
    exact ⟨text, spelled, by simp⟩

/-- A value is taken for a size exactly if it is one. -/
theorem readSize_value_iff {n : Nat} {r : List Char} (gap : Gap)
    (wellFormed : WellFormed .value value) (closes : Closes rest) :
    readSize (gap.text ++ (value ++ rest)) = .ok (n, r) ↔ r = rest ∧ IsSize n value := by
  rw [readSize_eq_ok_iff, trim_value gap wellFormed]
  constructor
  · rintro ⟨fits, same, closes'⟩
    obtain ⟨rfl, rfl⟩ := eq_of_skip wellFormed closes same (skip_size closes' n)
    exact ⟨rfl, fits, rfl⟩
  · rintro ⟨rfl, fits, rfl⟩
    exact ⟨fits, rfl, closes⟩

/-- A numeral is the notation of a natural number only without a sign, a fraction and an exponent.
-/
theorem Numeral.isSize_of_text {x : Numeral} {n : Nat} (size : Json.IsSize n x.text) :
    x.IsSize ∧ x.whole = n := by
  obtain ⟨fits, shape⟩ := size
  have digits : ∀ c ∈ x.text, c.isDigit = true := by
    rw [shape]
    exact fun c => Decimal.isDigit_of_mem_toDigits
  have positive : x.negative = false := by
    refine eq_false_of_ne_true fun negative => ?_
    have digit := digits '-' (by simp [text, negative])
    cases digit
  have whole : x.fraction = none := by
    refine Option.eq_none_iff_forall_ne_some.2 fun d fraction => ?_
    have digit := digits '.' (by simp [text, positive, unsigned, tail, fraction])
    cases digit
  have plain : x.exponent = none := by
    refine Option.eq_none_iff_forall_ne_some.2 fun e exponent => ?_
    have digit := digits e.mark (by simp [text, positive, unsigned, tail, exponent, Exponent.text])
    rcases e.isMark with lower | upper
    · rw [lower] at digit
      cases digit
    · rw [upper] at digit
      cases digit
  have same : Nat.toDigits 10 x.whole = Nat.toDigits 10 n := by
    simpa [text, unsigned, tail, positive, whole, plain] using shape
  have value := congrArg (Nat.ofDigitChars 10 · 0) same
  simp only [Nat.ofDigitChars_ten_toDigits] at value
  exact ⟨⟨positive, whole, plain, value ▸ fits⟩, value⟩

end JobShell.Json
