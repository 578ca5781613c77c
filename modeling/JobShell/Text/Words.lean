/-!
# Words

A text is cut into words at runs of separators. No word is empty and no word holds a separator
(`ne_nil_of_mem_words`, `isSeparator_of_mem_words`).

Lines of input are cut at white space, the Unicode property `White_Space`: the five ASCII controls
from tab to carriage return and the space, next line, the two no-break and the fixed-width spaces,
and the line and paragraph separators. The invisible characters U+180E, U+200B and U+FEFF do not
have it.
-/

namespace JobShell.Text

/-! ## Cutting at separators -/

/-- Puts a word before others unless it is empty. -/
def consWord (w : List Char) (ws : List (List Char)) : List (List Char) :=
  if w.isEmpty then ws else w :: ws

/-- The word that a text begins with, empty if a separator or nothing comes first, and the words
after it. -/
def leadingWord (isSeparator : Char → Bool) : List Char → List Char × List (List Char)
  | [] => ([], [])
  | c :: cs =>
    let (w, ws) := leadingWord isSeparator cs
    if isSeparator c then ([], consWord w ws) else (c :: w, ws)

/-- The maximal runs of characters that are no separators, in order. -/
def words (isSeparator : Char → Bool) (cs : List Char) : List (List Char) :=
  consWord (leadingWord isSeparator cs).1 (leadingWord isSeparator cs).2

section

variable {isSeparator : Char → Bool}

theorem words_nil : words isSeparator [] = [] := rfl

theorem words_cons_separator {c : Char} (h : isSeparator c = true) (cs : List Char) :
    words isSeparator (c :: cs) = words isSeparator cs := by
  simp [words, leadingWord, h, consWord]

/-- The words after one more has been put in front, if it is not empty. -/
theorem mem_consWord {v w : List Char} {ws : List (List Char)} (h : v ∈ consWord w ws) :
    (v = w ∧ w ≠ []) ∨ v ∈ ws := by
  unfold consWord at h
  split at h <;> simp_all

/-- No word holds a separator, and only the leading one can be empty. -/
theorem leadingWord_clean (cs : List Char) :
    (∀ x ∈ (leadingWord isSeparator cs).1, isSeparator x = false) ∧
      ∀ w ∈ (leadingWord isSeparator cs).2, w ≠ [] ∧ ∀ x ∈ w, isSeparator x = false := by
  induction cs with
  | nil => simp [leadingWord]
  | cons c cs ih =>
    obtain ⟨head, tail⟩ := ih
    by_cases hc : isSeparator c = true
    · simp only [leadingWord, hc, if_true]
      refine ⟨by simp, fun w hw => ?_⟩
      rcases mem_consWord hw with ⟨rfl, hne⟩ | hw
      · exact ⟨hne, head⟩
      · exact tail w hw
    · simp only [leadingWord, hc, Bool.false_eq_true, if_false]
      exact ⟨by simpa [hc] using head, tail⟩

theorem ne_nil_of_mem_words {cs w : List Char} (h : w ∈ words isSeparator cs) : w ≠ [] := by
  rcases mem_consWord h with ⟨rfl, hne⟩ | h
  · exact hne
  · exact ((leadingWord_clean cs).2 w h).1

theorem isSeparator_of_mem_words {cs w : List Char} (h : w ∈ words isSeparator cs) {x : Char}
    (hx : x ∈ w) : isSeparator x = false := by
  rcases mem_consWord h with ⟨rfl, _⟩ | h
  · exact (leadingWord_clean cs).1 x hx
  · exact ((leadingWord_clean cs).2 w h).2 x hx

end

/-! ## White space -/

/-- The Unicode property `White_Space`. -/
def isBlank (c : Char) : Bool :=
  let n := c.toNat
  (9 ≤ n && n ≤ 13) || n == 0x20 || n == 0x85 || n == 0xA0 || n == 0x1680 ||
    (0x2000 ≤ n && n ≤ 0x200A) || n == 0x2028 || n == 0x2029 || n == 0x202F || n == 0x205F ||
    n == 0x3000

/-- A text without its leading white space. -/
def trimStart (cs : List Char) : List Char :=
  cs.dropWhile isBlank

end JobShell.Text
