import JobShell.Proofs.Parts
import Mathlib.Algebra.Ring.Parity
import Mathlib.Data.List.DropRight

/-!
# Redirections without a path

A marker takes the next word for its path, even if that word is a marker, so a run of markers falls
into pairs. What comes before the run makes no difference: no matter whether the word in front of it is
an argument or a path, the run begins with a marker that is free. So the parser is left with a marker
without a path exactly behind an odd run at the end of the line.

* `even_trailing_markers`: parts end in an even run of markers, by induction from the last part.
* `refused_iff_odd_trailing_markers`: which lines are refused, and for which marker.
-/

namespace JobShell.Command

variable {line marker : String} {words : List String} {parts : List Part}

/-- The markers at the end of some words, as far back as there are no other words. -/
def trailingMarkers (words : List String) : List String :=
  words.rtakeWhile (IsMarker ·)

/-- A marker at the end is one more of the trailing ones. -/
theorem trailingMarkers_concat (left : IsMarker marker) (words : List String) :
    trailingMarkers (words ++ [marker]) = trailingMarkers words ++ [marker] :=
  List.rtakeWhile_concat_pos _ _ _ (decide_eq_true left)

theorem trailingMarkers_concat_of_not {word : String} (spoken : ¬ IsMarker word)
    (words : List String) : trailingMarkers (words ++ [word]) = [] :=
  List.rtakeWhile_concat_neg _ _ _ (by simpa using spoken)

/-- A redirection adds its marker and its path to the run, or ends the run with its path. -/
theorem even_trailing_redirection {path : String} (left : IsMarker marker)
    (even : Even (trailingMarkers words).length) :
    Even (trailingMarkers (words ++ [marker, path])).length := by
  rw [List.append_cons]
  -- A path that is a marker itself lengthens the run by two words; any other path ends it.
  by_cases taken : IsMarker path
  · rw [trailingMarkers_concat taken, trailingMarkers_concat left, List.append_assoc,
      List.length_append]
    exact even.add even_two
  · rw [trailingMarkers_concat_of_not taken]
    exact Even.zero

/-- The words of parts end in an even run of markers. -/
theorem even_trailing_markers (plain : Plain parts) :
    Even (trailingMarkers (parts.flatMap Part.words)).length := by
  induction parts using List.reverseRecOn with
  | nil => exact Even.zero
  | append_singleton parts part ih =>
    have last : (parts ++ [part]).flatMap Part.words = parts.flatMap Part.words ++ part.words := by
      simp
    rw [Plain, List.filterMap_append, List.forall_mem_append] at plain
    obtain ⟨before, own⟩ := plain
    rw [last]
    cases part with
    | argument word =>
      rw [Part.words, trailingMarkers_concat_of_not (own word List.mem_cons_self)]
      exact Even.zero
    | input path => exact even_trailing_redirection (.inl rfl) (ih before)
    | output path => exact even_trailing_redirection (.inr rfl) (ih before)

/-- A line that is no comment is refused exactly if it ends in an odd number of redirection markers in a
row. The error names the last one of them. Neither the process id nor the limit on the arguments
nor the mode makes a difference to whether the line is refused, or to the error. -/
theorem refused_iff_odd_trailing_markers (spoken : isCommentLine line = false) (ctx : Context) :
    ((∃ e, parse ctx line = .error e) ↔ Odd (trailingMarkers (tokens line)).length) ∧
    (∀ e, parse ctx line = .error e → ∃ last, (tokens line).getLast? = some last ∧
      IsMarker last ∧ e = .missingTarget last) ∧
    ∀ (other : Context) (e : ShellError), parse other line = .error e ↔ parse ctx line = .error e := by
  obtain ⟨parts, plain, whole, reads⟩ | ⟨parts, last, plain, marker, whole, refuses⟩ :=
    parse_cases spoken
  · have accepted : ∀ ctx e, parse ctx line ≠ .error e := fun ctx e refused => by
      rw [reads] at refused
      cases refused
    have even : ¬ Odd (trailingMarkers (tokens line)).length := by
      rw [whole, Nat.not_odd_iff_even]
      exact even_trailing_markers plain
    exact ⟨iff_of_false (fun ⟨e, refused⟩ => accepted ctx e refused) even,
      fun e refused => absurd refused (accepted ctx e),
      fun other e => iff_of_false (accepted other e) (accepted ctx e)⟩
  · have odd : Odd (trailingMarkers (tokens line)).length := by
      rw [whole, trailingMarkers_concat marker, List.length_append]
      exact (even_trailing_markers plain).add_one
    refine ⟨iff_of_true ⟨_, refuses ctx⟩ odd, fun e refused => ?_, fun other e => ?_⟩
    · rw [refuses] at refused
      cases refused
      exact ⟨last, by rw [whole, List.getLast?_concat], marker, rfl⟩
    · rw [refuses, refuses]

/-- The first two redirections take markers for their paths, so the run at the end begins anew. -/
theorem refused_iff_odd_trailing_markers_after_pairs :
    let line := "cat < > > < <$ $$\t< > >"
    isCommentLine line = false ∧ trailingMarkers (tokens line) = ["<", ">", ">"] ∧
      ∀ ctx, parse ctx line = .error (.missingTarget ">") := by
  intro line
  have spoken : isCommentLine line = false := by decide +kernel
  have given : tokens line = ["cat", "<", ">", ">", "<", "<$", "$$", "<", ">", ">"] := by
    decide +kernel
  have run : trailingMarkers (tokens line) = ["<", ">", ">"] := by rw [given]; decide
  refine ⟨spoken, run, fun ctx => ?_⟩
  obtain ⟨fails, names, -⟩ := refused_iff_odd_trailing_markers spoken ctx
  obtain ⟨e, refused⟩ := fails.2 (by rw [run]; decide)
  obtain ⟨last, ends, -, rfl⟩ := names e refused
  rw [given] at ends
  cases ends
  exact refused

end JobShell.Command
