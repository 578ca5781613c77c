import JobShell.Handles
import JobShell.Proofs.Redirections
import Mathlib.Data.List.Basic

/-!
# Handles

What the operations on handles do to the table of descriptors, number by number, whether or not the
system fails. Nothing keeps two handles from having one number, nor a handle from having the number
of a descriptor that is not open.

* `get?_closeUnder`: what a close leaves.
* `duplicated_duplicateUnder`: what can come of a duplication.
* `duplicate_keeps_promise_iff`: when a duplication that succeeds has duplicated something.
-/

namespace JobShell

namespace Descriptors

variable {d : Descriptors}

/-- To open or to set descriptors closes none. -/
theorem HasStandard.set (has : d.HasStandard) (n : Nat) (id : OpenId) : (d.set n id).HasStandard := by
  intro i low
  rw [d.get?_set]
  split
  · exact ⟨id, rfl⟩
  · exact has i low

/-- To open a file leaves the standard streams open. -/
theorem HasStandard.insert (has : d.HasStandard) (id : OpenId) : (d.insert id).2.HasStandard :=
  has.set d.lowestFree id

end Descriptors

namespace Handle

variable {failure : Option Errno} {h target : Handle} {opener : Opener} {m m' : Machine}
variable {d d' : Descriptors} {path : String} {n : Nat} {id : OpenId}

/-! ## One operation -/

/-- A new handle has the least number that was free, and no other descriptor changes. -/
theorem openUnder_ok (opened : openUnder failure opener m d path = (m', d', .ok h)) :
    failure = none ∧ h = ⟨some d.lowestFree⟩ ∧ ∃ id, opener m path = (m', .ok id) ∧
      d' = (d.insert id).2 := by
  unfold openUnder at opened
  split at opened
  · cases opened
  · unfold openWith at opened
    split at opened
    · cases opened
    · rename_i result
      cases opened
      exact ⟨rfl, rfl, _, result, rfl⟩

/-- Where nothing is opened, the descriptors stay as they are. -/
theorem openUnder_error {e : ShellError}
    (refused : openUnder failure opener m d path = (m', d', .error e)) :
    d' = d ∧ (failure = none → ∃ e, opener m path = (m', .error e)) := by
  unfold openUnder at refused
  split at refused
  · cases refused
    exact ⟨rfl, nofun⟩
  · unfold openWith at refused
    split at refused
    · rename_i result
      cases refused
      exact ⟨rfl, fun _ => ⟨_, result⟩⟩
    · cases refused

/-- A handle that has been given up stands for no number. -/
theorem closeUnder_handle (failure : Option Errno) (h : Handle) (d : Descriptors) :
    (h.closeUnder failure d).1 = ⟨none⟩ := by
  obtain ⟨number?⟩ := h
  cases number? with
  | none => cases failure <;> rfl
  | some n =>
    have closed : ((⟨some n⟩ : Handle).close d).1 = ⟨none⟩ := by
      unfold close
      dsimp only
      split
      · rfl
      · split <;> rfl
    cases failure with
    | none => exact closed
    | some e =>
      unfold closeUnder
      dsimp only
      split
      · exact closed
      · rfl

theorem closeUnder_of_closed (failure : Option Errno) (d : Descriptors) :
    (⟨none⟩ : Handle).closeUnder failure d = (⟨none⟩, d, .ok ()) := by
  cases failure <;> rfl

/-- What a close leaves, whether or not it reports an error: a standard stream stays open, and no
descriptor changes but the one with the number of the handle. -/
theorem get?_closeUnder (failure : Option Errno) (h : Handle) (d : Descriptors) (n : Nat) :
    (h.closeUnder failure d).2.1.get? n =
      if h.number? = some n ∧ standardError < n then none else d.get? n := by
  obtain ⟨number?⟩ := h
  cases number? with
  | none => rw [closeUnder_of_closed, if_neg (by simp)]
  | some k =>
    have erased : (d.erase k).get? n = if k = n then none else d.get? n := by
      simp only [d.get?_erase, eq_comm]
    by_cases low : k ≤ standardError
    · have spared : (⟨some k⟩ : Handle).closeUnder failure d = (⟨none⟩, d, .ok ()) := by
        cases failure <;> simp [closeUnder, close, low]
      rw [spared, if_neg (by simp only [Option.some.injEq]; omega)]
    · have gone : ((⟨some k⟩ : Handle).closeUnder failure d).2.1.get? n =
          if k = n then none else d.get? n := by
        cases failure with
        | some e => simp [closeUnder, low, erased]
        | none =>
          cases here : d.get? k with
          | some id => simp [closeUnder, close, low, Descriptors.close, here, erased]
          | none =>
            simp only [closeUnder, close, low, Descriptors.close, here, if_false]
            split
            · rename_i same
              rw [← same, here]
            · rfl
      rw [gone]
      by_cases same : k = n
      · subst same
        rw [if_pos rfl, if_pos ⟨rfl, by omega⟩]
      · rw [if_neg same, if_neg (by simp [same])]

/-! ## Duplication -/

/-- Whether a handle is closed, or has a number at which nothing is open. -/
def Dangling (h : Handle) (d : Descriptors) : Prop :=
  ∀ n, h.number? = some n → d.get? n = none

/-- What can come of a duplication. -/
inductive Duplicated (failure : Option Errno) (h target : Handle) (d : Descriptors) :
    Descriptors × Except ShellError Unit → Prop
  | same : h = target → Duplicated failure h target d (d, .ok ())
  | refused {e : ShellError} : h ≠ target →
    (failure = none → h.Dangling d ∨ ∀ n, target.number? = some n → Descriptors.limit ≤ n) →
    Duplicated failure h target d (d, .error e)
  | done {n k : Nat} {id : OpenId} : h = ⟨some n⟩ → target = ⟨some k⟩ → n ≠ k → failure = none →
    k < Descriptors.limit → d.get? n = some id →
    Duplicated failure h target d (d.set k id, .ok ())

/-- A closed handle cannot be duplicated, and nothing can be put in its place. -/
theorem duplicateUnder_of_closed (failure : Option Errno) (d : Descriptors) (apart : h ≠ target)
    (closed : h.number? = none ∨ target.number? = none) :
    h.duplicateUnder failure target d = (d, .error invalid) := by
  obtain ⟨n?⟩ := h
  obtain ⟨k?⟩ := target
  have apart : n? ≠ k? := fun equal => apart (congrArg Handle.mk equal)
  have unasked : asks ⟨n?⟩ ⟨k?⟩ = false := by
    rcases closed with rfl | rfl <;> simp [asks, isValid]
  have refused : (⟨n?⟩ : Handle).duplicate ⟨k?⟩ d = .error invalid := by
    rcases closed with rfl | rfl <;> simp [duplicate, apart]
  unfold duplicateUnder
  rw [unasked, refused]
  cases failure <;> rfl

/-- Handles with two numbers: the system is asked. -/
theorem duplicateUnder_of_apart (failure : Option Errno) (d : Descriptors) {n k : Nat}
    (apart : n ≠ k) : (⟨some n⟩ : Handle).duplicateUnder failure ⟨some k⟩ d =
      match failure, d.duplicate n k with
      | some e, _ => (d, .error (.system e))
      | none, .error e => (d, .error (.system e))
      | none, .ok d' => (d', .ok ()) := by
  have asked : asks ⟨some n⟩ ⟨some k⟩ = true := by simp [asks, isValid, apart]
  unfold duplicateUnder
  rw [asked]
  cases failure with
  | some e => rfl
  | none =>
    simp only [duplicate, Option.some.injEq, apart, if_false]
    cases d.duplicate n k <;> rfl

/-- What a duplication comes to, for any failure of the system. -/
theorem duplicated_duplicateUnder (failure : Option Errno) (h target : Handle) (d : Descriptors) :
    Duplicated failure h target d (h.duplicateUnder failure target d) := by
  by_cases same : h = target
  · subst same
    have answer : h.duplicateUnder failure h d = (d, .ok ()) := by
      cases failure <;> simp [duplicateUnder, duplicate, asks]
    rw [answer]
    exact .same rfl
  obtain ⟨n?⟩ := h
  obtain ⟨k?⟩ := target
  cases n? with
  | none =>
    rw [duplicateUnder_of_closed failure d same (.inl rfl)]
    refine .refused same fun _ => .inl fun _ number => ?_
    cases number
  | some n =>
    cases k? with
    | none =>
      rw [duplicateUnder_of_closed failure d same (.inr rfl)]
      refine .refused same fun _ => .inr fun _ number => ?_
      cases number
    | some k =>
      have apart : n ≠ k := fun equal => same (equal ▸ rfl)
      rw [duplicateUnder_of_apart failure d apart]
      cases failure with
      | some e =>
        refine .refused same fun works => ?_
        cases works
      | none =>
        unfold Descriptors.duplicate
        cases here : d.get? n with
        | none => exact .refused same fun _ => .inl fun i equal => Option.some.inj equal ▸ here
        | some id =>
          dsimp only
          by_cases within : k < Descriptors.limit
          · rw [if_pos within]
            exact .done rfl rfl apart rfl within here
          · rw [if_neg within]
            exact .refused same fun _ => .inr fun i equal =>
              Option.some.inj equal ▸ Nat.not_lt.1 within

theorem not_dangling (here : d.get? n = some id) : ¬ Dangling ⟨some n⟩ d := by
  intro dangling
  rw [dangling n rfl] at here
  cases here

/-- What a duplication promises. If it succeeds, both handles have the number of an open descriptor,
the two lead to the same open file, and no other descriptor has changed; if it fails, none has. -/
def Duplicates (h target : Handle) (d : Descriptors) : Descriptors × Except ShellError Unit → Prop
  | (d', .ok ()) => ∃ n k id, h = ⟨some n⟩ ∧ target = ⟨some k⟩ ∧ d.get? n = some id ∧
    d'.get? n = some id ∧ d'.get? k = some id ∧ ∀ i, i ≠ k → d'.get? i = d.get? i
  | (d', .error _) => d' = d

/-- A duplication keeps its promise exactly unless it is of a handle onto itself, or onto one with the
same number, and the handle is closed or its number is not open: then it succeeds, and there is
nothing that it could lead to. It succeeds only for equal handles, and for an open descriptor that is
given a number in the range of descriptors, unless the system fails. -/
theorem duplicate_keeps_promise_iff (failure : Option Errno) (h target : Handle) (d : Descriptors) :
    (Duplicates h target d (h.duplicateUnder failure target d) ↔
      ¬ (h = target ∧ h.Dangling d)) ∧
    ((h.duplicateUnder failure target d).2 = .ok () ↔ h = target ∨ failure = none ∧
      ¬ h.Dangling d ∧ ∃ k, target = ⟨some k⟩ ∧ k < Descriptors.limit) := by
  have result := duplicated_duplicateUnder failure h target d
  generalize h.duplicateUnder failure target d = outcome at result
  cases result with
  | same equal =>
    subst equal
    refine ⟨⟨fun ⟨n, _, id, number, _, here, _⟩ => ?_, fun sound => ?_⟩,
      iff_of_true rfl (.inl rfl)⟩
    · rintro ⟨-, dangling⟩
      subst number
      exact not_dangling here dangling
    · obtain ⟨n?⟩ := h
      obtain ⟨n, taken⟩ := Classical.not_forall.1 fun dangling => sound ⟨rfl, dangling⟩
      obtain ⟨number, here⟩ := Classical.not_imp.1 taken
      obtain ⟨id, here⟩ := Option.ne_none_iff_exists'.1 here
      cases number
      exact ⟨n, n, id, rfl, rfl, here, here, here, fun _ _ => rfl⟩
  | refused apart why =>
    refine ⟨iff_of_true rfl fun both => apart both.1, iff_of_false nofun ?_⟩
    rintro (equal | ⟨works, sound, k, number, within⟩)
    · exact apart equal
    · rcases why works with dangling | beyond
      · exact sound dangling
      · exact absurd within (Nat.not_lt.2 (beyond k (congrArg Handle.number? number)))
  | @done n k id source number apart works within here =>
    have unequal : h ≠ target := by
      rintro rfl
      rw [source] at number
      exact apart (Option.some.inj (congrArg Handle.number? number))
    have sound : ¬ h.Dangling d := source ▸ not_dangling here
    refine ⟨iff_of_true ⟨n, k, id, source, number, here, ?_, ?_, fun i other => ?_⟩ fun both =>
      unequal both.1, iff_of_true rfl (.inr ⟨works, sound, k, number, within⟩)⟩
    · rw [d.get?_set, if_neg apart, here]
    · rw [d.get?_set, if_pos rfl]
    · rw [d.get?_set, if_neg other]

/-- A handle on a number that is not open, and one that has been given up, are duplicated onto
themselves. -/
theorem duplicate_accepts_dangling_handles :
    let h : Handle := ⟨some 900⟩
    let closed := (h.closeUnder none .standard).1
    ofNumber 900 = .ok h ∧
      h.duplicateUnder none h .standard = (.standard, .ok ()) ∧
      closed.duplicateUnder none closed .standard = (.standard, .ok ()) ∧
      ¬ Duplicates h h .standard (h.duplicateUnder none h .standard) ∧
      ¬ Duplicates closed closed .standard (closed.duplicateUnder none closed .standard) := by
  refine ⟨rfl, rfl, rfl, ?_, ?_⟩
  · rintro ⟨n, k, id, number, -, here, -⟩
    cases number
    cases here
  · rintro ⟨n, k, id, number, -⟩
    cases number

end Handle

end JobShell
