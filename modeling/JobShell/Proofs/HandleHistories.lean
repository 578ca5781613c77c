import JobShell.Proofs.Handles

/-!
# Handles, over whole histories

Handles are made, opened, duplicated and closed in any order, several of them can have one number,
and the system fails wherever it likes. The standard streams stay open all the same, and a handle
that has been closed does nothing any more, whoever has its number now.

* `HasStandard.perform`, `perform_keeps_closed`: what one operation keeps.
* `handles_keep_standard_streams`: what holds after any number of them.
-/

namespace JobShell

namespace Descriptors

variable {d : Descriptors}

/-- To close a handle closes no standard stream. -/
theorem HasStandard.close (has : d.HasStandard) (failure : Option Errno) (h : Handle) :
    (h.closeUnder failure d).2.1.HasStandard := by
  intro i low
  rw [h.get?_closeUnder, if_neg fun high => absurd high.2 (Nat.not_lt.2 low)]
  exact has i low

/-- To duplicate a handle leaves the standard streams open. -/
theorem HasStandard.duplicate (has : d.HasStandard) (failure : Option Errno) (h target : Handle) :
    (h.duplicateUnder failure target d).1.HasStandard := by
  have result := h.duplicated_duplicateUnder failure target d
  generalize h.duplicateUnder failure target d = outcome at result
  cases result with
  | same _ => exact has
  | refused _ _ => exact has
  | done _ _ _ _ _ _ => exact has.set _ _

end Descriptors

namespace Workbench

variable {b : Workbench} {name : String} {h : Handle}

/-! ## One operation -/

/-- The step lemma: so does every operation. -/
theorem HasStandard.perform (has : b.descriptors.HasStandard) (failure : Option Errno)
    (operation : HandleOperation) : (b.perform failure operation).1.descriptors.HasStandard := by
  cases operation with
  | ofNumber name n =>
    rw [Workbench.perform]
    split <;> exact has
  | opens access name path =>
    rw [Workbench.perform]
    split <;> rename_i opened
    · obtain ⟨-, -, id, -, rfl⟩ := Handle.openUnder_ok opened
      exact has.insert id
    · obtain ⟨rfl, -⟩ := Handle.openUnder_error opened
      exact has
  | duplicate name target =>
    rw [Workbench.perform]
    split
    · exact has.duplicate failure _ _
    · exact has
  | close name =>
    rw [Workbench.perform]
    split
    · exact has.close failure _
    · exact has

theorem handles_put (b : Workbench) (name : String) (h : Handle) (other : String) :
    (b.put name h).handles other = if other = name then some h else b.handles other :=
  rfl

theorem perform_close (known : b.handles name = some h) (failure : Option Errno) :
    b.perform failure (.close name) =
      (({ b with descriptors := (h.closeUnder failure b.descriptors).2.1 }).put name ⟨none⟩,
        some (h.closeUnder failure b.descriptors).2.2) := by
  rw [perform, known, ← h.closeUnder_handle failure b.descriptors]

/-- A name that stands for a closed handle goes on doing so until it is given another one. -/
theorem perform_keeps_closed (closed : b.handles name = some ⟨none⟩) (failure : Option Errno)
    {operation : HandleOperation} (kept : operation.assigned? ≠ some name) :
    (b.perform failure operation).1.handles name = some ⟨none⟩ := by
  cases operation with
  | ofNumber other n =>
    have apart : name ≠ other := fun same => kept (congrArg some same.symm)
    rw [perform]
    split
    · rw [handles_put, if_neg apart, closed]
    · exact closed
  | opens access other path =>
    have apart : name ≠ other := fun same => kept (congrArg some same.symm)
    rw [perform]
    split
    · rw [handles_put, if_neg apart]
      exact closed
    · exact closed
  | duplicate other target =>
    rw [perform]
    split <;> exact closed
  | close other =>
    cases known : b.handles other with
    | none =>
      rw [perform, known]
      exact closed
    | some h =>
      rw [perform_close known, handles_put]
      split
      · rfl
      · exact closed

/-- To close a closed handle does nothing. -/
theorem perform_close_of_closed (closed : b.handles name = some ⟨none⟩) (failure : Option Errno) :
    b.perform failure (.close name) = (b, some (.ok ())) := by
  have same : (fun other => if other = name then some ⟨none⟩ else b.handles other) = b.handles := by
    funext other
    split
    · rename_i equal
      rw [equal, closed]
    · rfl
  rw [perform_close closed, Handle.closeUnder_of_closed, put, same]

/-! ## Any number of operations -/

/-- The run lemma: so do any operations, whichever of them fail. -/
theorem HasStandard.performAll (has : b.descriptors.HasStandard)
    (history : List (HandleOperation × Option Errno)) :
    (b.performAll history).descriptors.HasStandard := by
  induction history generalizing b with
  | nil => exact has
  | cons step history ih => exact ih (HasStandard.perform has step.2 step.1)

/-- A handle that is closed stays closed until its name is given to another one. -/
theorem performAll_keeps_closed (closed : b.handles name = some ⟨none⟩)
    {history : List (HandleOperation × Option Errno)}
    (kept : ∀ step ∈ history, step.1.assigned? ≠ some name) :
    (b.performAll history).handles name = some ⟨none⟩ := by
  induction history generalizing b with
  | nil => exact closed
  | cons step history ih =>
    obtain ⟨first, others⟩ := List.forall_mem_cons.1 kept
    exact ih (perform_keeps_closed closed step.2 first) others

/-- What comes of it when the handle `h` of a name is closed. Its number is given up for good: as long
as the name is not given to another handle, to close it again changes nothing and reports no error. -/
structure ClosesForGood (b : Workbench) (name : String) (h : Handle) (after : Workbench) : Prop where
  closed : after.handles name = some ⟨none⟩
  descriptors : ∀ n, after.descriptors.get? n =
    if h.number? = some n ∧ standardError < n then none else b.descriptors.get? n
  handles : ∀ other, other ≠ name → after.handles other = b.handles other
  machine : after.machine = b.machine
  again : ∀ later, (∀ step ∈ later, step.1.assigned? ≠ some name) → ∀ failure,
    (after.performAll later).perform failure (.close name) =
      (after.performAll later, some (.ok ()))

/-- Whatever is done with handles, the standard streams stay open. A close gives up its handle for
good, whether or not it reports an error, and changes no descriptor but the one with the number of
that handle. -/
theorem handles_keep_standard_streams (b : Workbench) (has : b.descriptors.HasStandard)
    (history : List (HandleOperation × Option Errno)) :
    let after := b.performAll history
    after.descriptors.HasStandard ∧
      ∀ name h, after.handles name = some h → ∀ failure,
        ClosesForGood after name h (after.perform failure (.close name)).1 := by
  intro after
  refine ⟨HasStandard.performAll has history, fun name h known failure => ?_⟩
  have result := perform_close known failure
  have closed : (after.perform failure (.close name)).1.handles name = some ⟨none⟩ := by
    rw [result, handles_put, if_pos rfl]
  refine ⟨closed, fun n => ?_, fun other apart => ?_, ?_, fun later kept failure' => ?_⟩
  · rw [result]
    exact h.get?_closeUnder failure after.descriptors n
  · rw [result, handles_put, if_neg apart]
  · rw [result]
    rfl
  · exact perform_close_of_closed (performAll_keeps_closed closed kept) failure'

/-- Two handles have one number. One is closed, though the system fails, and standard output leads to a
file by then; to close the other is an error. The number is taken again before that one is closed once
more, and stays open. -/
theorem handles_keep_standard_streams_of_shared_number :
    let b : Workbench :=
      { machine := Machine.start FileTree.system ["home"] 1001 [], descriptors := .standard }
    let after := b.performAll [(.ofNumber "a" 3, none), (.opens .write "b" "out", none),
      (.ofNumber "c" 1, none), (.duplicate "b" "c", none), (.close "c", none),
      (.close "b", some .interrupted)]
    let closed := (after.perform none (.close "a")).1
    let later := closed.performAll [(.opens .read "d" "/dev/null", none), (.close "c", none)]
    b.descriptors.HasStandard ∧ after.descriptors.HasStandard ∧
      after.descriptors.get? standardOutput = some 3 ∧ after.handles "a" = some ⟨some 3⟩ ∧
      (after.perform none (.close "a")).2 = some (.error (.system .badDescriptor)) ∧
      closed.handles "a" = some ⟨none⟩ ∧ later.descriptors.get? 3 = some 4 ∧
      later.perform none (.close "a") = (later, some (.ok ())) := by
  intro b
  have has : b.descriptors.HasStandard := Descriptors.hasStandard_standard
  obtain ⟨still, closes⟩ := handles_keep_standard_streams b has [(.ofNumber "a" 3, none),
    (.opens .write "b" "out", none), (.ofNumber "c" 1, none), (.duplicate "b" "c", none),
    (.close "c", none), (.close "b", some .interrupted)]
  dsimp only
  generalize history : b.performAll _ = after at *
  have known : after.handles "a" = some ⟨some 3⟩ := by
    rw [← history]
    decide +kernel
  have forGood := closes "a" ⟨some 3⟩ known none
  refine ⟨has, still, ?_, known, ?_, forGood.closed, ?_, forGood.again _ (by decide) none⟩ <;>
  · rw [← history]
    decide +kernel

end Workbench

end JobShell
