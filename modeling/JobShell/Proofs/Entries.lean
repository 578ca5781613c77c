import JobShell.Proofs.Values

/-!
# Objects and arrays

A document of known shape is an object of members or an array of elements, with white space around
each token. A reader that goes from entry to entry finds the key or the value of each in turn, and
the end of the container behind the last.

* `nextKey_member`, `nextElement_element`: the next entry of a container.
* `nextKey_closer`, `nextElement_closer`: its end.
-/

namespace JobShell.Json

/-- A member of an object, with the white space that is around its tokens. -/
structure Member where
  name : String
  key : List Char
  spelled : StringLiteral.Spells name.toList key
  value : List Char
  wellFormed : WellFormed .value value
  lead : Gap := {}
  before : Gap := {}
  after : Gap := {}
  trail : Gap := {}

/-- An element of an array, with the white space that is around it. -/
structure Element where
  value : List Char
  wellFormed : WellFormed .value value
  lead : Gap := {}
  trail : Gap := {}

namespace Member

/-- A member from behind its key to its value. -/
def body (m : Member) (rest : List Char) : List Char :=
  m.before.text ++ ':' :: (m.after.text ++ (m.value ++ rest))

def text (m : Member) : List Char :=
  m.lead.text ++ '"' :: (m.key ++ '"' :: m.body m.trail.text)

end Member

def Element.text (e : Element) : List Char :=
  e.lead.text ++ (e.value ++ e.trail.text)

/-- The entries of a container from some on, each but the first one after a comma, and the end. -/
def entries (inner : Container) : Bool → List (List Char) → List Char
  | _, [] => [inner.closer]
  | first, text :: texts => (if first then [] else [',']) ++ (text ++ entries inner false texts)

variable {inner : Container} {cs rest : List Char} {texts : List (List Char)}

/-- A numeral may end behind an entry. -/
theorem closes_entries (gap : Gap) : Closes (gap.text ++ (entries inner false texts ++ rest)) := by
  cases texts with
  | nil => exact closes_gap_cons gap inner.mark_closer
  | cons text texts => exact closes_gap_cons gap (.inl rfl)

/-! ## Members -/

theorem readKey_member (m : Member) (cs : List Char) :
    readKey ('"' :: (m.key ++ '"' :: cs)) = .ok (m.name, cs) := by
  have read : StringLiteral.read (m.key ++ '"' :: cs) = .ok (m.name.toList, cs) :=
    StringLiteral.read_eq_ok_iff.2 ⟨m.key, m.spelled, rfl⟩
  rw [readKey, if_pos rfl, read]
  simp [Except.map]

theorem Member.text_append (m : Member) (cs : List Char) : m.text ++ cs =
    m.lead.text ++ '"' :: (m.key ++ '"' :: m.body (m.trail.text ++ cs)) := by
  simp [text, body]

/-- The key of a member is read, whatever comes before it. -/
theorem nextKey_member (first : Bool) (gap : Gap) (m : Member) (cs : List Char) :
    nextKey first (gap.text ++ ((if first then [] else [',']) ++ (m.text ++ cs))) =
      .ok (some m.name, m.body (m.trail.text ++ cs)) := by
  rw [m.text_append]
  cases first with
  | true =>
    rw [if_pos rfl, List.nil_append, nextKey, trim_gap, trim_gap_cons m.lead (by decide)]
    dsimp only
    rw [if_neg (by decide), if_pos rfl, readKey_member]
    rfl
  | false =>
    rw [if_neg (by decide), List.singleton_append, nextKey, trim_gap_cons gap (by decide)]
    dsimp only
    rw [if_neg (by decide), if_neg (by decide), if_pos rfl, trim_gap_cons m.lead (by decide),
      if_neg (by simp), readKey_member]
    rfl

theorem nextKey_closer (first : Bool) (gap : Gap) (cs : List Char) :
    nextKey first (gap.text ++ '\x7d' :: cs) = .ok (none, '\x7d' :: cs) := by
  rw [nextKey, trim_gap_cons gap (by decide)]
  exact if_pos rfl

/-! ## Elements -/

theorem Element.text_append (e : Element) (cs : List Char) : e.text ++ cs =
    e.lead.text ++ (e.value ++ (e.trail.text ++ cs)) := by
  simp [text]

/-- An element is found, whatever comes before it. -/
theorem nextElement_element (first : Bool) (gap : Gap) (e : Element) (cs : List Char) :
    nextElement first (gap.text ++ ((if first then [] else [',']) ++ (e.text ++ cs))) =
      .ok (true, e.value ++ (e.trail.text ++ cs)) := by
  obtain ⟨c, r, shape, solid, -, bracket, -⟩ := exists_first e.wellFormed rfl
  rw [e.text_append, shape, List.cons_append]
  cases first with
  | true =>
    rw [if_pos rfl, List.nil_append, nextElement, trim_gap, trim_gap_cons e.lead solid]
    dsimp only
    rw [if_neg bracket, if_pos rfl]
  | false =>
    rw [if_neg (by decide), List.singleton_append, nextElement, trim_gap_cons gap (by decide)]
    dsimp only
    rw [if_neg (by decide), if_neg (by decide), if_pos rfl, trim_gap_cons e.lead solid]
    dsimp only
    rw [if_neg bracket]

theorem nextElement_closer (first : Bool) (gap : Gap) (cs : List Char) :
    nextElement first (gap.text ++ ']' :: cs) = .ok (false, ']' :: cs) := by
  rw [nextElement, trim_gap_cons gap (by decide)]
  exact if_pos rfl

/-! ## Ends -/

/-- An array ends only where no elements are left. -/
theorem endArray_entries (first : Bool) (gap : Gap) (elements : List Element) :
    endArray (gap.text ++ (entries .array first (elements.map Element.text) ++ cs)) = .ok rest ↔
      elements = [] ∧ rest = cs := by
  cases elements with
  | nil =>
    rw [endArray, List.map_nil, entries, List.singleton_append, trim_gap_cons gap rfl]
    simp [Container.closer, eq_comm]
  | cons e elements =>
    obtain ⟨c, r, shape, solid, comma, bracket, -⟩ := exists_first e.wellFormed rfl
    rw [endArray, List.map_cons, entries, List.append_assoc, List.append_assoc, e.text_append,
      shape, List.cons_append]
    cases first with
    | true =>
      rw [if_pos rfl, List.nil_append, trim_gap, trim_gap_cons e.lead solid]
      simp [bracket, comma]
    | false =>
      rw [if_neg (by decide), List.singleton_append, trim_gap_cons gap (by decide)]
      dsimp only
      rw [if_neg (by decide), if_pos rfl]
      split <;> simp

theorem endDocument_gap (gap : Gap) : endDocument gap.text = .ok () := by
  have trimmed := trim_gap gap []
  rw [List.append_nil] at trimmed
  rw [endDocument, trimmed]
  rfl

end JobShell.Json
