import JobShell.Proofs.Expansion
import Mathlib.Data.List.SplitBy

/-!
# Expansion, run by run

Pairs of dollar signs are taken from the left, so in a run of dollar signs half of it, rounded down,
becomes process ids, and what is left over stays. Pairs do not reach beyond a run, and nothing but
runs of dollar signs changes.

* `expandPairs_flatten`: the runs of a text are expanded apart.
* `expandPid_run_by_run`: what expansion makes of a word, and that it leaves nothing to be expanded.
-/

namespace JobShell.Text

variable {value cs : List Char} {rs : List (List Char)}

/-- A text cut into its longest runs of equal characters. -/
structure AreRuns (rs : List (List Char)) (cs : List Char) : Prop where
  whole : rs.flatten = cs
  uniform : ∀ r ∈ rs, ∃ n c, r = List.replicate (n + 1) c
  longest : rs.IsChain fun r r' => r.getLast? ≠ r'.head?

/-- The longest runs of equal characters in a text. -/
def runs (cs : List Char) : List (List Char) :=
  cs.splitBy (· == ·)

/-- Of a run of dollar signs each pair is replaced by `value`; another run stays as it is. -/
def expandRun (value run : List Char) : List Char :=
  if run.head? = some '$' then
    (List.replicate (run.length / 2) value).flatten ++ List.replicate (run.length % 2) '$'
  else run

/-! ## The runs of a text -/

theorem exists_replicate {run : List Char} (present : run ≠ [])
    (same : run.IsChain fun c d => (c == d) = true) :
    ∃ n c, run = List.replicate (n + 1) c := by
  obtain ⟨c, rest, rfl⟩ := List.exists_cons_of_ne_nil present
  refine ⟨rest.length, c, ?_⟩
  clear present
  induction rest generalizing c with
  | nil => rfl
  | cons d rest ih =>
    obtain ⟨equal, same⟩ := List.isChain_cons_cons.1 same
    obtain rfl : c = d := by simpa using equal
    rw [List.length_cons, List.replicate_succ, ← ih c same]

theorem areRuns_runs (cs : List Char) : AreRuns (runs cs) cs where
  whole := List.flatten_splitBy _ cs
  uniform _ member :=
    exists_replicate (List.ne_nil_of_mem_splitBy member) (List.isChain_of_mem_splitBy member)
  longest := by
    refine (List.isChain_getLast_head_splitBy _ cs).imp ?_
    rintro r r' ⟨present, present', differ⟩
    rw [List.getLast?_eq_some_getLast present, List.head?_eq_some_head present']
    simpa using differ

/-! ## Their expansion -/

/-- Of `n` dollar signs each pair is replaced, and one is left if `n` is odd. -/
theorem expandPairs_dollars (n : Nat) : expandPairs value (List.replicate n '$') =
    (List.replicate (n / 2) value).flatten ++ List.replicate (n % 2) '$' := by
  induction n using Nat.twoStepInduction with
  | zero => rfl
  | one => rfl
  | more n ih _ =>
    have half : (n + 2) / 2 = n / 2 + 1 := by omega
    have odd : (n + 2) % 2 = n % 2 := by omega
    rw [List.replicate_succ, List.replicate_succ, expandPairs, ih, half, odd, List.replicate_succ,
      List.flatten_cons, List.append_assoc]

theorem expandRun_dollars (n : Nat) : expandRun value (List.replicate (n + 1) '$') =
    expandPairs value (List.replicate (n + 1) '$') := by
  rw [expandRun, expandPairs_dollars, List.length_replicate]
  exact if_pos rfl

/-- Runs of other characters stay as they are. -/
theorem expandRun_of_ne {c : Char} (other : c ≠ '$') (n : Nat) :
    expandRun value (List.replicate (n + 1) c) = List.replicate (n + 1) c :=
  if_neg (by simpa [List.replicate_succ] using other)

/-- What comes after a run does not go on with its character. -/
theorem head?_flatten_ne {r : List Char} (h : AreRuns (r :: rs) cs) :
    rs.flatten.head? ≠ r.getLast? := by
  cases rs with
  | nil =>
    obtain ⟨n, c, rfl⟩ := h.uniform r List.mem_cons_self
    simp [List.getLast?_replicate]
  | cons next rest =>
    have differ : r.getLast? ≠ next.head? := (List.isChain_cons_cons.1 h.longest).1
    obtain ⟨n, c, rfl⟩ := h.uniform next (by simp)
    simpa [List.replicate_succ] using differ.symm

/-- A text is expanded run by run. -/
theorem expandPairs_flatten (h : AreRuns rs cs) :
    expandPairs value cs = rs.flatMap (expandRun value) := by
  induction rs generalizing cs with
  | nil =>
    rw [← h.whole]
    rfl
  | cons r rs ih =>
    have later : AreRuns rs rs.flatten :=
      ⟨rfl, fun r member => h.uniform r (List.mem_cons_of_mem _ member), h.longest.tail⟩
    obtain ⟨n, c, rfl⟩ := h.uniform r List.mem_cons_self
    rw [← h.whole, List.flatten_cons, List.flatMap_cons, ← ih later]
    by_cases dollar : c = '$'
    · subst dollar
      have apart : rs.flatten.head? ≠ some '$' := by
        simpa [List.getLast?_replicate] using head?_flatten_ne h
      rw [expandPairs_append apart, expandRun_dollars]
    · rw [expandPairs_plain_append, expandRun_of_ne dollar]
      exact fun member => dollar (List.eq_of_mem_replicate member).symm

/-! ## Words -/

/-- In a word each longest run of dollar signs becomes half as many process ids, rounded down, and
one dollar sign if their number is odd; every other run stays in its place. No pair is left, so that
another expansion changes nothing, whatever its process id. -/
theorem expandPid_run_by_run (pid : Int) (word : String) :
    AreRuns (runs word.toList) word.toList ∧
      (expandPid pid word).toList =
        (runs word.toList).flatMap (expandRun (toString pid).toList) ∧
      ¬ Paired (expandPid pid word).toList ∧
      ∀ other, expandPid other (expandPid pid word) = expandPid pid word := by
  have cut : AreRuns (runs word.toList) word.toList := areRuns_runs word.toList
  have clean : ¬ Paired (expandPid pid word).toList := unpaired_expandPid pid word
  refine ⟨cut, ?_, clean, fun other => expandPid_of_unpaired clean other⟩
  rw [expandPid, String.toList_ofList, expandPairs_flatten cut]

example : runs "a$$$b$$".toList = ["a".toList, "$$$".toList, "b".toList, "$$".toList] ∧
    expandPid 42 "a$$$b$$" = "a42$b42" := by decide

end JobShell.Text
