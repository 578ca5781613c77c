import JobShell.Text.Expansion
import Mathlib.Data.List.Infix

/-!
# What expansion leaves alone

Expansion puts the digits of a process id, and perhaps a minus sign, in the place of pairs of dollar
signs. So it makes no markers of other words, and it leaves words without such a pair alone.

* `expandPairs_append`: texts that can be expanded apart.
* `unpaired_expandPairs`: nothing is left to be expanded.
* `expandPid_eq_singleton_iff`: which word becomes a given mark.
* `expandPid_of_unpaired`: which words stay as they are.
-/

namespace JobShell.Text

variable {value cs : List Char} {c x : Char} {word : String}

/-- A pair of dollar signs comes in the text. -/
def Paired (cs : List Char) : Prop :=
  ['$', '$'] <:+: cs

instance (cs : List Char) : Decidable (Paired cs) :=
  inferInstanceAs (Decidable (['$', '$'] <:+: cs))

theorem expandPairs_eq_nil_iff (present : value ≠ []) : expandPairs value cs = [] ↔ cs = [] := by
  fun_cases expandPairs value cs <;> simp [present]

/-- Expansion makes no word of a single mark, and destroys none. -/
theorem expandPairs_eq_singleton_iff (present : value ≠ []) (foreign : x ∉ value) :
    expandPairs value cs = [x] ↔ cs = [x] := by
  fun_cases expandPairs value cs with
  | case1 cs =>
    obtain ⟨v, vs, rfl⟩ := List.exists_cons_of_ne_nil present
    have other : v ≠ x := fun same => foreign (same ▸ List.mem_cons_self)
    simp [other]
  | case2 c cs => simp [expandPairs_eq_nil_iff present]
  | case3 => rfl

/-- A character that does not begin a pair stays. -/
theorem expandPairs_cons (single : c = '$' → cs.head? ≠ some '$') :
    expandPairs value (c :: cs) = c :: expandPairs value cs := by
  rw [expandPairs]
  rintro rest rfl rfl
  exact single rfl rfl

theorem head?_expandPairs_eq_iff (present : value ≠ []) (foreign : x ∉ value) (plain : x ≠ '$') :
    (expandPairs value cs).head? = some x ↔ cs.head? = some x := by
  fun_cases expandPairs value cs with
  | case1 cs =>
    obtain ⟨v, vs, rfl⟩ := List.exists_cons_of_ne_nil present
    have other : v ≠ x := fun same => foreign (same ▸ List.mem_cons_self)
    simp [other, plain.symm]
  | case2 c cs => simp
  | case3 => rfl

/-- What is in an expanded text comes from the text or from the value. -/
theorem mem_expandPairs (member : x ∈ expandPairs value cs) : x ∈ value ∨ x ∈ cs := by
  fun_induction expandPairs value cs with
  | case1 cs ih =>
    rcases List.mem_append.1 member with put | later
    · exact .inl put
    · exact (ih later).imp_right fun own => List.mem_cons_of_mem _ (List.mem_cons_of_mem _ own)
  | case2 c cs _ ih =>
    rcases List.mem_cons.1 member with rfl | later
    · exact .inr List.mem_cons_self
    · exact (ih later).imp_right (List.mem_cons_of_mem _)
  | case3 => cases member

theorem expandPairs_plain_append (plain : '$' ∉ cs) (ds : List Char) :
    expandPairs value (cs ++ ds) = cs ++ expandPairs value ds := by
  induction cs with
  | nil => rfl
  | cons c cs ih =>
    obtain ⟨other, plain⟩ := not_or.1 (List.mem_cons.not.1 plain)
    rw [List.cons_append, expandPairs_cons fun same => absurd same.symm other, ih plain]
    rfl

/-- Pairs are found apart in two texts of which the second one does not go on with a run. -/
theorem expandPairs_append {ds : List Char} (apart : ds.head? ≠ some '$') :
    expandPairs value (cs ++ ds) = expandPairs value cs ++ expandPairs value ds := by
  fun_induction expandPairs value cs with
  | case1 cs ih =>
    show expandPairs value ('$' :: '$' :: (cs ++ ds)) = _
    rw [expandPairs, ih, List.append_assoc]
  | case2 c cs single ih =>
    rw [List.cons_append, expandPairs_cons, ih]
    · rfl
    · -- A pair at the seam would end the first text and begin the second one.
      rintro rfl
      cases cs with
      | nil => exact apart
      | cons next rest =>
        rintro ⟨⟩
        exact single rest rfl rfl
  | case3 => rfl

theorem expandPairs_of_unpaired (unpaired : ¬ Paired cs) : expandPairs value cs = cs := by
  fun_induction expandPairs value cs with
  | case1 cs => exact absurd ⟨[], cs, rfl⟩ unpaired
  | case2 c cs _ ih =>
    rw [ih fun later => unpaired (later.trans (List.suffix_cons c cs).isInfix)]
  | case3 => rfl

/-- No pair is left, and none comes about where a value stands next to another character. -/
theorem unpaired_expandPairs (clean : '$' ∉ value) : ¬ Paired (expandPairs value cs) := by
  have beyond : ∀ {v l : List Char}, '$' ∉ v → Paired (v ++ l) → Paired l := by
    intro v l
    induction v with
    | nil => exact fun _ paired => paired
    | cons x v ih =>
      intro clean paired
      obtain ⟨other, clean⟩ := not_or.1 (List.mem_cons.not.1 clean)
      rcases List.infix_cons_iff.1 paired with ⟨rest, same⟩ | later
      · exact absurd (List.head_eq_of_cons_eq same) other
      · exact ih clean later
  fun_induction expandPairs value cs with
  | case1 cs ih => exact fun paired => ih (beyond clean paired)
  | case2 c cs single ih =>
    intro paired
    rcases List.infix_cons_iff.1 paired with ⟨rest, whole⟩ | later
    · obtain ⟨rfl, same⟩ := List.cons_eq_cons.1 whole
      cases cs with
      | nil => cases same
      | cons next others =>
        by_cases run : next = '$'
        · exact single others rfl (run ▸ rfl)
        · rw [expandPairs_cons fun dollar => absurd dollar run] at same
          exact run (List.head_eq_of_cons_eq same).symm
    · exact ih later
  | case3 => exact fun paired => by simp [Paired] at paired

/-! ## The text of a process id -/

theorem pidText_ne_nil (pid : Int) : (toString pid).toList ≠ [] := by
  rw [Int.toString_eq_repr, Int.repr_eq_if]
  split
  · exact fun empty => Nat.repr_ne_empty (String.toList_eq_nil_iff.1 empty)
  · simp

/-- A process id is written with digits and a minus sign. -/
theorem mem_pidText {pid : Int} (member : c ∈ (toString pid).toList) :
    c = '-' ∨ c.isDigit = true := by
  have digits : ∀ n : Nat, c ∈ n.repr.toList → c.isDigit = true := by
    intro n member
    rw [Nat.repr_eq_ofList_toDigits, String.toList_ofList] at member
    exact Nat.isDigit_of_mem_toDigits (by decide) (by decide) member
  rw [Int.toString_eq_repr, Int.repr_eq_if] at member
  split at member
  · exact .inr (digits _ member)
  · rw [String.toList_append, List.mem_append] at member
    rcases member with sign | digit
    · exact .inl (by simpa using sign)
    · exact .inr (digits _ digit)

/-- The text of a process id holds digits and a sign only. -/
theorem not_mem_pidText (unsigned : x ≠ '-') (mark : x.isDigit = false) (pid : Int) :
    x ∉ (toString pid).toList := by
  intro member
  rcases mem_pidText member with sign | digit
  · exact unsigned sign
  · rw [mark] at digit
    cases digit

/-- A word of one mark is not made by expansion. -/
theorem expandPid_eq_singleton_iff (unsigned : x ≠ '-') (mark : x.isDigit = false) (pid : Int) :
    expandPid pid word = String.singleton x ↔ word = String.singleton x := by
  have foreign : x ∉ (toString pid).toList := not_mem_pidText unsigned mark pid
  rw [← String.toList_inj, ← String.toList_inj, expandPid, String.toList_ofList,
    String.toList_singleton, expandPairs_eq_singleton_iff (pidText_ne_nil pid) foreign]

theorem unpaired_expandPid (pid : Int) (word : String) : ¬ Paired (expandPid pid word).toList := by
  rw [expandPid, String.toList_ofList]
  exact unpaired_expandPairs (not_mem_pidText (by decide) (by decide) pid)

theorem expandPid_of_unpaired (unpaired : ¬ Paired word.toList) (pid : Int) :
    expandPid pid word = word := by
  rw [expandPid, expandPairs_of_unpaired unpaired, String.ofList_toList]

end JobShell.Text
