import JobShell.Json.Fault

/-!
# JSON strings

A string is read up to its closing quote. Escapes name characters by a letter or by four hexadecimal
digits; a character beyond the first plane takes a pair of the latter. A string that is passed over
is held to the form of its escapes only, not to what they name.

* `length_read_lt`, `length_skip_lt`: both leave fewer characters than they were given.
-/

namespace JobShell.Json.StringLiteral

/-! ## Escapes -/

/-- The value of a hexadecimal digit. -/
def hexDigit? (c : Char) : Option Nat :=
  if '0' ≤ c ∧ c ≤ '9' then some (c.toNat - '0'.toNat)
  else if 'a' ≤ c ∧ c ≤ 'f' then some (c.toNat - 'a'.toNat + 10)
  else if 'A' ≤ c ∧ c ≤ 'F' then some (c.toNat - 'A'.toNat + 10)
  else none

/-- The value of four hexadecimal digits. -/
def fourHex? : List Char → Option Nat
  | [a, b, c, d] => do
    return (((← hexDigit? a) * 16 + (← hexDigit? b)) * 16 + (← hexDigit? c)) * 16 + (← hexDigit? d)
  | _ => none

/-- The number of bytes of characters. -/
def byteCount (cs : List Char) : Nat :=
  cs.foldr (fun c n => c.utf8Size + n) 0

/-- The value of the next four bytes, which must be hexadecimal digits. -/
def unit (cs : List Char) : Except Fault Nat :=
  match fourHex? (cs.take 4) with
  | some n => .ok n
  | none =>
    if byteCount (cs.take 4) < 4 then .error (.atEnd .endInString)
    else .error ⟨.invalidEscape, cs, 4⟩

/-- Whether a 16-bit unit is the first of a pair. -/
def isLeading (n : Nat) : Bool :=
  0xD800 ≤ n && n ≤ 0xDBFF

/-- Whether a 16-bit unit is the second of a pair. -/
def isTrailing (n : Nat) : Bool :=
  0xDC00 ≤ n && n ≤ 0xDFFF

/-- The character of a pair of units. -/
def pairChar (leading trailing : Nat) : Char :=
  Char.ofNat ((leading - 0xD800) * 0x400 + (trailing - 0xDC00) + 0x10000)

/-- The second unit of a pair, in an escape of its own. -/
def trailingUnit : List Char → Except Fault Nat
  | [] => .error (.atEnd .endInString)
  | '\\' :: [] => .error (.atEnd .endInString)
  | '\\' :: 'u' :: cs =>
    match unit cs with
    | .error e => .error e
    | .ok n => if isTrailing n then .ok n else .error (.before .loneSurrogate (cs.drop 4))
  | '\\' :: cs => .error (.next .unfinishedSurrogate cs)
  | cs => .error (.next .unfinishedSurrogate cs)

/-- The character that a letter after a backslash names. -/
def named? (c : Char) : Option Char :=
  if c = '"' ∨ c = '\\' ∨ c = '/' then some c
  else if c = 'b' then some '\x08'
  else if c = 'f' then some '\x0c'
  else if c = 'n' then some '\n'
  else if c = 'r' then some '\r'
  else if c = 't' then some '\t'
  else none

/-- The character of an escape that starts with the digits of a unit, and the number of characters
that the escape takes. -/
def unicodeEscape (cs : List Char) : Except Fault (Char × Nat) :=
  match unit cs with
  | .error e => .error e
  | .ok n =>
    if isTrailing n then .error (.before .loneSurrogate (cs.drop 4))
    else if isLeading n then
      match trailingUnit (cs.drop 4) with
      | .error e => .error e
      | .ok m => .ok (pairChar n m, 10)
    else .ok (Char.ofNat n, 4)

/-- The character of the escape after a backslash, and the number of characters that it takes. -/
def escape : List Char → Except Fault (Char × Nat)
  | [] => .error (.atEnd .endInString)
  | c :: cs =>
    match named? c with
    | some named => .ok (named, 1)
    | none =>
      if c = 'u' then (unicodeEscape cs).map fun (c, n) => (c, n + 1)
      else .error (.next .invalidEscape (c :: cs))

/-- The number of characters that the escape after a backslash takes. -/
def escapeLength : List Char → Except Fault Nat
  | [] => .error (.atEnd .endInString)
  | c :: cs =>
    if (named? c).isSome then .ok 1
    else if c = 'u' then (unit cs).map fun _ => 5
    else .error (.next .invalidEscape (c :: cs))

/-! ## Strings -/

/-- Whether a character may not stand in a string as it is. -/
def isControl (c : Char) : Bool :=
  c < ' '

/-- The characters of a string up to its closing quote, and the text after that. -/
def read : List Char → Except Fault (List Char × List Char)
  | [] => .error (.atEnd .endInString)
  | c :: cs =>
    if c = '"' then .ok ([], cs)
    else if c = '\\' then
      match escape cs with
      | .error e => .error e
      | .ok (named, n) =>
        match read (cs.drop n) with
        | .error e => .error e
        | .ok (content, rest) => .ok (named :: content, rest)
    else if isControl c then .error (.next .controlCharacter (c :: cs))
    else
      match read cs with
      | .error e => .error e
      | .ok (content, rest) => .ok (c :: content, rest)
termination_by cs => cs.length
decreasing_by all_goals simp only [List.length_cons, List.length_drop]; omega

/-- The text after the closing quote of a string. -/
def skip : List Char → Except Fault (List Char)
  | [] => .error (.atEnd .endInString)
  | c :: cs =>
    if c = '"' then .ok cs
    else if c = '\\' then
      match escapeLength cs with
      | .error e => .error e
      | .ok n => skip (cs.drop n)
    else if isControl c then .error (.before .controlCharacter (c :: cs))
    else skip cs
termination_by cs => cs.length
decreasing_by all_goals simp only [List.length_cons, List.length_drop]; omega

/-! ## What is left -/

theorem length_read_lt {cs content rest : List Char} (h : read cs = .ok (content, rest)) :
    rest.length < cs.length := by
  fun_induction read cs generalizing content rest with
  | case1 | case3 | case4 | case6 | case7 => cases h
  | case2 => cases h; simp
  | case5 cs named n _ content' rest' inner _ ih =>
    cases h
    have := ih inner
    simp only [List.length_drop] at this
    simp only [List.length_cons]
    omega
  | case8 c cs _ _ _ content' rest' inner ih =>
    cases h
    have := ih inner
    simp only [List.length_cons]
    omega

theorem length_skip_lt {cs rest : List Char} (h : skip cs = .ok rest) :
    rest.length < cs.length := by
  fun_induction skip cs generalizing rest with
  | case1 | case3 | case5 => cases h
  | case2 => cases h; simp
  | case4 cs n _ _ ih =>
    have := ih h
    simp only [List.length_drop] at this
    simp only [List.length_cons]
    omega
  | case6 c cs _ _ _ ih =>
    have := ih h
    simp only [List.length_cons]
    omega

end JobShell.Json.StringLiteral
