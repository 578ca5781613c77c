import JobShell.Json.Reader

/-!
# Passing over a value

A value that nobody asked for still has to be well formed. It is passed over with a list of the
arrays and objects that are open, innermost first, so that its depth does not matter.
-/

namespace JobShell.Json

/-- Something that holds values. -/
inductive Container where
  | array
  | object
  deriving DecidableEq, Repr

namespace Container

/-- The character that ends a container. -/
def closer : Container → Char
  | .array => ']'
  | .object => '\x7d'

/-- The fault of a document that ends inside a container. -/
def unclosed : Container → Cause
  | .array => .endInList
  | .object => .endInObject

/-- The fault of an entry that is followed by something else than a comma or the end. -/
def undelimited : Container → Cause
  | .array => .expectedListDelimiter
  | .object => .expectedObjectDelimiter

end Container

/-- How far the passing over a value has got. -/
structure Passage where
  /-- A container has just been opened, so it may end at once. -/
  opened : Bool
  /-- The open containers, innermost first. -/
  outer : List Container
  rest : List Char
  deriving DecidableEq, Repr

/-- Passes over a scalar that starts with the character `c`. -/
def skipScalar (c : Char) (cs : List Char) : Except Fault (List Char) :=
  if c = 'n' then skipWord ['u', 'l', 'l'] cs
  else if c = 't' then skipWord ['r', 'u', 'e'] cs
  else if c = 'f' then skipWord ['a', 'l', 's', 'e'] cs
  else if c = '-' then NumberLiteral.skip cs
  else if NumberLiteral.isDigit c then NumberLiteral.skip (c :: cs)
  else if c = '"' then StringLiteral.skip cs
  else .error (.next .expectedValue (c :: cs))

/-- Starts on a value: a scalar is passed over, a container opened. -/
def skipStart (outer : List Container) (cs : List Char) : Except Fault Passage :=
  match trim cs with
  | [] => .error (.atEnd .endInValue)
  | c :: r =>
    if c = '[' then .ok ⟨true, .array :: outer, r⟩
    else if c = '\x7b' then .ok ⟨true, .object :: outer, r⟩
    else (skipScalar c r).map fun r => ⟨false, outer, r⟩

/-- Passes over the key of a member and its colon. -/
def skipKey (cs : List Char) : Except Fault (List Char) :=
  match trim cs with
  | [] => .error (.atEnd .endInObject)
  | c :: r =>
    if c = '"' then
      match StringLiteral.skip r with
      | .error e => .error e
      | .ok r => readColon r
    else .error (.next .keyNotString (c :: r))

/-- Starts on an entry of the innermost container. -/
def skipEntry (inner : Container) (outer : List Container) (cs : List Char) :
    Except Fault Passage :=
  match inner with
  | .array => skipStart (inner :: outer) cs
  | .object =>
    match skipKey cs with
    | .error e => .error e
    | .ok r => skipStart (inner :: outer) r

/-- Goes on in the innermost container: to its end or to the next entry. -/
def skipOn (opened : Bool) (inner : Container) (outer : List Container) (cs : List Char) :
    Except Fault Passage :=
  match trim cs with
  | [] => .error (.atEnd inner.unclosed)
  | c :: r =>
    if c = inner.closer then .ok ⟨false, outer, r⟩
    else if opened then skipEntry inner outer (c :: r)
    else if c = ',' then skipEntry inner outer r
    else .error (.next inner.undelimited (c :: r))

/-! ## Progress -/

theorem length_skipScalar_le {c : Char} {cs rest : List Char} (h : skipScalar c cs = .ok rest) :
    rest.length ≤ cs.length := by
  unfold skipScalar at h
  split at h
  · exact length_skipWord_le h
  split at h
  · exact length_skipWord_le h
  split at h
  · exact length_skipWord_le h
  split at h
  · exact Nat.le_of_lt (NumberLiteral.length_skip_lt h)
  split at h
  · have := NumberLiteral.length_skip_lt h
    simp only [List.length_cons] at this
    omega
  split at h
  · exact Nat.le_of_lt (StringLiteral.length_skip_lt h)
  · cases h

theorem length_skipStart_lt {outer : List Container} {cs : List Char} {p : Passage}
    (h : skipStart outer cs = .ok p) : p.rest.length < cs.length := by
  have trimmed := length_trim_le cs
  unfold skipStart at h
  split at h
  · cases h
  rename_i c r shape
  rw [shape, List.length_cons] at trimmed
  split at h
  · cases h
    exact trimmed
  split at h
  · cases h
    exact trimmed
  · obtain ⟨r', inner, same⟩ := map_eq_ok h
    cases same
    have := length_skipScalar_le inner
    simp only
    omega

theorem length_skipKey_lt {cs rest : List Char} (h : skipKey cs = .ok rest) :
    rest.length < cs.length := by
  have trimmed := length_trim_le cs
  unfold skipKey at h
  split at h
  · cases h
  rename_i c r shape
  rw [shape, List.length_cons] at trimmed
  split at h
  · split at h
    · cases h
    · rename_i r' inner
      have := StringLiteral.length_skip_lt inner
      have := length_readColon_lt h
      omega
  · cases h

theorem length_skipEntry_lt {inner : Container} {outer : List Container} {cs : List Char}
    {p : Passage} (h : skipEntry inner outer cs = .ok p) : p.rest.length < cs.length := by
  unfold skipEntry at h
  split at h
  · exact length_skipStart_lt h
  · split at h
    · cases h
    · rename_i r key
      have := length_skipKey_lt key
      have := length_skipStart_lt h
      omega

/-- Each step within a container takes at least a character. -/
theorem length_skipOn_lt {opened : Bool} {inner : Container} {outer : List Container}
    {cs : List Char} {p : Passage} (h : skipOn opened inner outer cs = .ok p) :
    p.rest.length < cs.length := by
  have trimmed := length_trim_le cs
  unfold skipOn at h
  split at h
  · cases h
  rename_i c r shape
  rw [shape] at trimmed
  split at h
  · cases h
    exact trimmed
  split at h
  · have := length_skipEntry_lt h
    omega
  split at h
  · have := length_skipEntry_lt h
    simp only [List.length_cons] at trimmed
    omega
  · cases h

/-! ## Whole values -/

/-- Goes on until every open container has ended. -/
def skipFrom (opened : Bool) (outer : List Container) (cs : List Char) :
    Except Fault (List Char) :=
  match outer with
  | [] => .ok cs
  | inner :: outer =>
    match _h : skipOn opened inner outer cs with
    | .error e => .error e
    | .ok p => skipFrom p.opened p.outer p.rest
termination_by cs.length
decreasing_by exact length_skipOn_lt _h

/-- Passes over a value. -/
def skip (cs : List Char) : Except Fault (List Char) :=
  match skipStart [] cs with
  | .error e => .error e
  | .ok p => skipFrom p.opened p.outer p.rest

theorem length_skipFrom_le {opened : Bool} {outer : List Container} {cs rest : List Char}
    (h : skipFrom opened outer cs = .ok rest) : rest.length ≤ cs.length := by
  fun_induction skipFrom opened outer cs with
  | case1 => cases h; exact Nat.le_refl _
  | case2 => cases h
  | case3 opened cs inner outer p step ih =>
    exact Nat.le_of_lt (Nat.lt_of_le_of_lt (ih h) (length_skipOn_lt step))

/-- A value is passed over in as many steps as it has characters at most. -/
theorem length_skip_lt {cs rest : List Char} (h : skip cs = .ok rest) :
    rest.length < cs.length := by
  unfold skip at h
  split at h
  · cases h
  · rename_i p start
    exact Nat.lt_of_le_of_lt (length_skipFrom_le h) (length_skipStart_lt start)

end JobShell.Json
