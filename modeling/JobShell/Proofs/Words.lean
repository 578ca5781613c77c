import JobShell.Text.Words

/-!
# Words and the texts that spell them

A text spells words if it holds them in order, with separators around them and at least one between
two of them. A text is cut into the words that it spells, and into no others.

* `words_append_separator`: the words before a separator and those after it.
* `words_eq_iff_spells`: what it means that a text is cut into given words.
* `head?_words`: the first word begins where the leading separators end.
-/

namespace JobShell.Text

variable {isSeparator : Char → Bool} {c : Char} {cs rest g w : List Char} {ws : List (List Char)}

/-! ## Texts that spell words -/

/-- Separators only. -/
def IsGap (isSeparator : Char → Bool) (g : List Char) : Prop :=
  ∀ x ∈ g, isSeparator x = true

/-- One character at least, and no separator. -/
def IsWord (isSeparator : Char → Bool) (w : List Char) : Prop :=
  w ≠ [] ∧ ∀ x ∈ w, isSeparator x = false

/-- A text holds words in order, and besides them only separators. What comes after a word is the end
of the text or begins with a separator, so no two words are run together. -/
inductive Spells (isSeparator : Char → Bool) : List (List Char) → List Char → Prop
  | gap {g : List Char} : IsGap isSeparator g → Spells isSeparator [] g
  | word {g w rest : List Char} {ws : List (List Char)} : IsGap isSeparator g →
    IsWord isSeparator w → (∀ x ∈ rest.head?, isSeparator x = true) → Spells isSeparator ws rest →
    Spells isSeparator (w :: ws) (g ++ w ++ rest)

/-! ## Cutting a text that spells words -/

theorem leadingWord_cons (isSeparator : Char → Bool) (c : Char) (cs : List Char) :
    leadingWord isSeparator (c :: cs) =
      if isSeparator c then ([], words isSeparator cs)
      else (c :: (leadingWord isSeparator cs).1, (leadingWord isSeparator cs).2) :=
  rfl

theorem consWord_append (w : List Char) (ws vs : List (List Char)) :
    consWord w (ws ++ vs) = consWord w ws ++ vs := by
  unfold consWord
  split <;> rfl

/-- A separator ends the words before it. -/
theorem leadingWord_append_separator (separates : isSeparator c = true) (cs ds : List Char) :
    leadingWord isSeparator (cs ++ c :: ds) =
      ((leadingWord isSeparator cs).1,
        (leadingWord isSeparator cs).2 ++ words isSeparator ds) := by
  induction cs with
  | nil =>
    rw [List.nil_append, leadingWord_cons, if_pos separates]
    rfl
  | cons x cs ih =>
    rw [List.cons_append, leadingWord_cons, leadingWord_cons, words, ih, consWord_append]
    split <;> rfl

theorem words_append_separator (separates : isSeparator c = true) (cs ds : List Char) :
    words isSeparator (cs ++ c :: ds) = words isSeparator cs ++ words isSeparator ds := by
  rw [words, leadingWord_append_separator separates, consWord_append]
  rfl

theorem words_gap_append (gap : IsGap isSeparator g) (cs : List Char) :
    words isSeparator (g ++ cs) = words isSeparator cs := by
  induction g with
  | nil => rfl
  | cons x g ih =>
    obtain ⟨first, others⟩ := List.forall_mem_cons.1 gap
    rw [List.cons_append, words_cons_separator first, ih others]

theorem leadingWord_of_clean (clean : ∀ x ∈ w, isSeparator x = false) :
    leadingWord isSeparator w = (w, []) := by
  induction w with
  | nil => rfl
  | cons x w ih =>
    obtain ⟨first, others⟩ := List.forall_mem_cons.1 clean
    rw [leadingWord_cons, ih others, first]
    rfl

theorem words_of_isWord (word : IsWord isSeparator w) : words isSeparator w = [w] := by
  rw [words, leadingWord_of_clean word.2, consWord, if_neg (by simpa using word.1)]

/-- A text that spells words is cut into them. -/
theorem words_of_spells (spells : Spells isSeparator ws cs) : words isSeparator cs = ws := by
  induction spells with
  | gap gap => simpa [words_nil] using words_gap_append gap []
  | @word g w rest ws gap word after _ ih =>
    rw [List.append_assoc, words_gap_append gap]
    cases rest with
    | nil => rw [List.append_nil, words_of_isWord word, ← ih, words_nil]
    | cons x rest =>
      have separates : isSeparator x = true := after x rfl
      rw [words_append_separator separates, words_of_isWord word, ← ih,
        words_cons_separator separates]
      rfl

/-! ## Every text spells its words -/

theorem Spells.cons_separator (spells : Spells isSeparator ws cs)
    (separates : isSeparator c = true) : Spells isSeparator ws (c :: cs) := by
  cases spells with
  | gap gap => exact .gap (List.forall_mem_cons.2 ⟨separates, gap⟩)
  | @word g w rest ws gap word after spells =>
    exact .word (g := c :: g) (List.forall_mem_cons.2 ⟨separates, gap⟩) word after spells

/-- A word before a text that begins with a separator, or with nothing. -/
theorem Spells.consWord (spells : Spells isSeparator ws rest)
    (clean : ∀ x ∈ w, isSeparator x = false) (after : ∀ x ∈ rest.head?, isSeparator x = true) :
    Spells isSeparator (consWord w ws) (w ++ rest) := by
  unfold Text.consWord
  split
  · rename_i empty
    rwa [List.isEmpty_iff.1 empty]
  · rename_i present
    have word : IsWord isSeparator w := ⟨by simpa using present, clean⟩
    exact .word (g := []) (by simp [IsGap]) word after spells

/-- A text is its leading word and a rest, which begins with a separator and spells the other
words. -/
theorem exists_spells_leadingWord (isSeparator : Char → Bool) (cs : List Char) :
    ∃ rest, (leadingWord isSeparator cs).1 ++ rest = cs ∧
      (∀ x ∈ rest.head?, isSeparator x = true) ∧
      Spells isSeparator (leadingWord isSeparator cs).2 rest := by
  induction cs with
  | nil => exact ⟨[], rfl, by simp, .gap (by simp [IsGap])⟩
  | cons x cs ih =>
    obtain ⟨rest, whole, after, spells⟩ := ih
    rw [leadingWord_cons]
    by_cases separates : isSeparator x = true
    · have others : Spells isSeparator (words isSeparator cs) cs := by
        have spelled := spells.consWord (leadingWord_clean cs).1 after
        rwa [whole] at spelled
      rw [if_pos separates]
      exact ⟨x :: cs, rfl, by simpa using separates, others.cons_separator separates⟩
    · rw [if_neg separates]
      exact ⟨rest, congrArg (x :: ·) whole, after, spells⟩

/-- Every text spells the words it is cut into. -/
theorem spells_words (isSeparator : Char → Bool) (cs : List Char) :
    Spells isSeparator (words isSeparator cs) cs := by
  obtain ⟨rest, whole, after, spells⟩ := exists_spells_leadingWord isSeparator cs
  have spelled := spells.consWord (leadingWord_clean cs).1 after
  rwa [whole] at spelled

/-- A text is cut into given words exactly if it spells them. -/
theorem words_eq_iff_spells : words isSeparator cs = ws ↔ Spells isSeparator ws cs :=
  ⟨fun cut => cut ▸ spells_words isSeparator cs, words_of_spells⟩

/-- The first word begins where the leading separators end. -/
theorem head?_words (isSeparator : Char → Bool) (cs : List Char) :
    (words isSeparator cs).head?.bind List.head? = (cs.dropWhile isSeparator).head? := by
  have spells := spells_words isSeparator cs
  generalize words isSeparator cs = ws at spells
  cases spells with
  | gap gap =>
    rw [← List.append_nil cs, List.dropWhile_append_of_pos gap]
    rfl
  | @word g w rest ws gap word after spells =>
    obtain ⟨x, w, rfl⟩ := List.exists_cons_of_ne_nil word.1
    have stops : isSeparator x = false := word.2 x List.mem_cons_self
    rw [List.append_assoc, List.dropWhile_append_of_pos gap, List.cons_append,
      List.dropWhile_cons_of_neg (by simp [stops])]
    rfl

end JobShell.Text
