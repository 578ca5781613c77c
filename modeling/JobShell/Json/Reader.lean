import JobShell.Json.NumberLiteral
import JobShell.Json.StringLiteral

/-!
# Reading JSON

The pieces from which a reader of documents of a known shape is built: white space, the head of a
value, and the punctuation of arrays and objects. A reader takes the characters that are left and
gives those that are left after it, or a fault. Reading the head of a value passes over a scalar
whole, and over nothing of an array or an object but the white space before it.

* `length_readHead_le`, `length_nextKey_lt`, `length_readColon_lt`: what is read is not left.
-/

namespace JobShell.Json

/-! ## White space and literals -/

/-- White space between tokens. -/
def isSpace (c : Char) : Bool :=
  c == ' ' || c == '\n' || c == '\t' || c == '\r'

/-- A text without the white space that it starts with. -/
def trim (cs : List Char) : List Char :=
  cs.dropWhile isSpace

/-- Passes over the rest of a literal word. -/
def skipWord : List Char → List Char → Except Fault (List Char)
  | [], cs => .ok cs
  | _ :: _, [] => .error (.atEnd .endInValue)
  | w :: ws, c :: cs =>
    if c = w then skipWord ws cs else .error (.next .expectedLiteral (c :: cs))

/-! ## Values -/

/-- Reads the head of the value that starts with the character `c`. -/
def headFrom (c : Char) (cs : List Char) : Except Fault (Head × List Char) :=
  if c = 'n' then (skipWord ['u', 'l', 'l'] cs).map fun r => (.null, r)
  else if c = 't' then (skipWord ['r', 'u', 'e'] cs).map fun r => (.boolean true, r)
  else if c = 'f' then (skipWord ['a', 'l', 's', 'e'] cs).map fun r => (.boolean false, r)
  else if c = '-' then (NumberLiteral.read true cs).map fun (n, r) => (.number n, r)
  else if NumberLiteral.isDigit c then
    (NumberLiteral.read false (c :: cs)).map fun (n, r) => (.number n, r)
  else if c = '"' then
    (StringLiteral.read cs).map fun (s, r) => (.string (String.ofList s), r)
  else if c = '[' then .ok (.array, c :: cs)
  else if c = '\x7b' then .ok (.object, c :: cs)
  else .error (.next .expectedValue (c :: cs))

/-- Reads the head of a value. -/
def readHead (cs : List Char) : Except Fault (Head × List Char) :=
  match trim cs with
  | [] => .error (.atEnd .endInValue)
  | c :: r => headFrom c r

/-- Reads a value that must be a string. -/
def readString (cs : List Char) : Except Fault (String × List Char) :=
  match readHead cs with
  | .error e => .error e
  | .ok (.string s, r) => .ok (s, r)
  | .ok (found, r) => .error (.before (.wrongType found "a string") r)

/-- Reads a value that must be a natural number of 64 bits. -/
def readSize (cs : List Char) : Except Fault (Nat × List Char) :=
  match readHead cs with
  | .error e => .error e
  | .ok (.number (.natural n), r) => .ok (n, r)
  | .ok (.number (.negative n), r) =>
    .error (.before (.wrongValue (.number (.negative n)) "usize") r)
  | .ok (found, r) => .error (.before (.wrongType found "usize") r)

/-! ## Objects -/

/-- Reads the key at the start of a text. -/
def readKey : List Char → Except Fault (String × List Char)
  | [] => .error (.atEnd .endInValue)
  | c :: cs =>
    if c = '"' then (StringLiteral.read cs).map fun (key, r) => (String.ofList key, r)
    else .error (.next .keyNotString (c :: cs))

/-- Reads the key of the next member of an object, after the comma unless it is the first; nothing
if the object ends, and then not its brace. -/
def nextKey (first : Bool) (cs : List Char) : Except Fault (Option String × List Char) :=
  match trim cs with
  | [] => .error (.atEnd .endInObject)
  | c :: r =>
    if c = '\x7d' then .ok (none, c :: r)
    else if first then (readKey (c :: r)).map fun (key, r) => (some key, r)
    else if c = ',' then
      if (trim r).head? == some '\x7d' then .error (.next .trailingComma (trim r))
      else (readKey (trim r)).map fun (key, r) => (some key, r)
    else .error (.next .expectedObjectDelimiter (c :: r))

/-- Passes over the colon between a key and its value. -/
def readColon (cs : List Char) : Except Fault (List Char) :=
  match trim cs with
  | [] => .error (.atEnd .endInObject)
  | c :: r => if c = ':' then .ok r else .error (.next .expectedColon (c :: r))

/-- Passes over the brace that ends an object. -/
def endObject (cs : List Char) : Except Fault (List Char) :=
  match trim cs with
  | [] => .error (.atEnd .endInObject)
  | c :: r =>
    if c = '\x7d' then .ok r
    else if c = ',' then .error (.next .trailingComma (c :: r))
    else .error (.next .trailingCharacters (c :: r))

/-! ## Arrays -/

/-- Whether another element follows in an array, after the comma unless it is the first; and the
text from that element, or from the bracket, on. -/
def nextElement (first : Bool) (cs : List Char) : Except Fault (Bool × List Char) :=
  match trim cs with
  | [] => .error (.atEnd .endInList)
  | c :: r =>
    if c = ']' then .ok (false, c :: r)
    else if first then .ok (true, c :: r)
    else if c = ',' then
      match trim r with
      | [] => .error (.atEnd .endInValue)
      | d :: r =>
        if d = ']' then .error (.next .trailingComma (d :: r)) else .ok (true, d :: r)
    else .error (.next .expectedListDelimiter (c :: r))

/-- Passes over the bracket that ends an array. -/
def endArray (cs : List Char) : Except Fault (List Char) :=
  match trim cs with
  | [] => .error (.atEnd .endInList)
  | c :: r =>
    if c = ']' then .ok r
    else if c = ',' then
      if (trim r).head? == some ']' then .error (.next .trailingComma (trim r))
      else .error (.next .trailingCharacters (trim r))
    else .error (.next .trailingCharacters (c :: r))

/-- Passes over white space, after which the document must end. -/
def endDocument (cs : List Char) : Except Fault Unit :=
  match trim cs with
  | [] => .ok ()
  | r => .error (.next .trailingCharacters r)

/-! ## What is left -/

theorem map_eq_ok {x : Except Fault α} {f : α → β} {b : β} (h : x.map f = .ok b) :
    ∃ a, x = .ok a ∧ f a = b := by
  cases x with
  | error e => cases h
  | ok a => cases h; exact ⟨a, rfl, rfl⟩

theorem length_trim_le (cs : List Char) : (trim cs).length ≤ cs.length :=
  (List.dropWhile_sublist isSpace).length_le

theorem length_skipWord_le {ws cs rest : List Char} (h : skipWord ws cs = .ok rest) :
    rest.length ≤ cs.length := by
  fun_induction skipWord ws cs with
  | case1 => cases h; exact Nat.le_refl _
  | case2 | case4 => cases h
  | case3 ws c cs ih =>
    have := ih h
    simp only [List.length_cons]
    omega

theorem length_headFrom_le {c : Char} {cs rest : List Char} {head : Head}
    (h : headFrom c cs = .ok (head, rest)) : rest.length ≤ cs.length + 1 := by
  have word : ∀ {ws : List Char} {b : Head},
      (skipWord ws cs).map (fun r => (b, r)) = .ok (head, rest) →
        rest.length ≤ cs.length + 1 := by
    intro ws b h
    obtain ⟨r, inner, same⟩ := map_eq_ok h
    cases same
    exact Nat.le_succ_of_le (length_skipWord_le inner)
  unfold headFrom at h
  split at h
  · exact word h
  split at h
  · exact word h
  split at h
  · exact word h
  split at h
  · obtain ⟨⟨n, r⟩, inner, same⟩ := map_eq_ok h
    cases same
    exact Nat.le_succ_of_le (Nat.le_of_lt (NumberLiteral.length_read_lt inner))
  split at h
  · obtain ⟨⟨n, r⟩, inner, same⟩ := map_eq_ok h
    cases same
    exact Nat.le_of_lt (NumberLiteral.length_read_lt inner)
  split at h
  · obtain ⟨⟨s, r⟩, inner, same⟩ := map_eq_ok h
    cases same
    exact Nat.le_succ_of_le (Nat.le_of_lt (StringLiteral.length_read_lt inner))
  split at h
  · cases h
    exact Nat.le_refl _
  split at h
  · cases h
    exact Nat.le_refl _
  · cases h

theorem length_readHead_le {cs rest : List Char} {head : Head}
    (h : readHead cs = .ok (head, rest)) : rest.length ≤ cs.length := by
  have trimmed := length_trim_le cs
  unfold readHead at h
  split at h
  · cases h
  rename_i c r shape
  rw [shape, List.length_cons] at trimmed
  exact Nat.le_trans (length_headFrom_le h) trimmed

theorem length_readString_le {cs rest : List Char} {s : String}
    (h : readString cs = .ok (s, rest)) : rest.length ≤ cs.length := by
  unfold readString at h
  split at h
  · cases h
  · rename_i head
    cases h
    exact length_readHead_le head
  · cases h

theorem length_readSize_le {cs rest : List Char} {n : Nat}
    (h : readSize cs = .ok (n, rest)) : rest.length ≤ cs.length := by
  unfold readSize at h
  split at h
  · cases h
  · rename_i head
    cases h
    exact length_readHead_le head
  · cases h
  · cases h

theorem length_readKey_lt {cs rest : List Char} {key : String} (h : readKey cs = .ok (key, rest)) :
    rest.length < cs.length := by
  unfold readKey at h
  split at h
  · cases h
  split at h
  · obtain ⟨⟨s, r⟩, inner, same⟩ := map_eq_ok h
    cases same
    have := StringLiteral.length_read_lt inner
    simp only [List.length_cons]
    omega
  · cases h

theorem length_nextKey_lt {first : Bool} {cs rest : List Char} {key : String}
    (h : nextKey first cs = .ok (some key, rest)) : rest.length < cs.length := by
  have trimmed := length_trim_le cs
  unfold nextKey at h
  split at h
  · cases h
  rename_i c r shape
  rw [shape] at trimmed
  split at h
  · cases h
  split at h
  · obtain ⟨⟨k, r'⟩, inner, same⟩ := map_eq_ok h
    cases same
    have := length_readKey_lt inner
    omega
  split at h
  · split at h
    · cases h
    · obtain ⟨⟨k, r'⟩, inner, same⟩ := map_eq_ok h
      cases same
      have := length_readKey_lt inner
      have := length_trim_le r
      simp only [List.length_cons] at trimmed
      omega
  · cases h

theorem length_readColon_lt {cs rest : List Char} (h : readColon cs = .ok rest) :
    rest.length < cs.length := by
  have trimmed := length_trim_le cs
  unfold readColon at h
  split at h
  · cases h
  rename_i c r shape
  rw [shape, List.length_cons] at trimmed
  split at h <;> cases h
  omega

end JobShell.Json
