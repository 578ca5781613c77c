import JobShell.JobTable
import Mathlib.Data.List.Nodup

/-!
# The job table as a bounded set

What the operations of a job table do to the process ids in it (`toList`) and to its slots.

* `toList_track_perm`, `track_of_full`: a process id is stored if there is a free slot, else nothing
  changes.
* `toList_untrack`: freeing a slot takes one process id out and nothing else.
* `untrack_track`: to store a process id and take it out again leaves every slot as it was.
-/

namespace JobShell.JobTable

variable {t : JobTable} {pid q : Pid} {slots filled : List (Option Pid)}

/-! ## Slots -/

theorem filterMap_id_cons_some :
    (some pid :: slots).filterMap id = pid :: slots.filterMap id := rfl

theorem fillFirst_eq_none_iff : fillFirst pid slots = none ↔ none ∉ slots := by
  induction slots with
  | nil => simp [fillFirst]
  | cons slot slots ih => cases slot <;> simp [fillFirst, ih]

theorem length_fillFirst (h : fillFirst pid slots = some filled) :
    filled.length = slots.length := by
  induction slots generalizing filled with
  | nil => cases h
  | cons slot slots ih =>
    cases slot with
    | none =>
      cases h
      rfl
    | some p =>
      obtain ⟨rest, found, rfl⟩ := Option.map_eq_some_iff.1 h
      simp [ih found]

/-- The process id comes in, at the place of the free slot. -/
theorem filterMap_fillFirst_perm (h : fillFirst pid slots = some filled) :
    (filled.filterMap id).Perm (pid :: slots.filterMap id) := by
  induction slots generalizing filled with
  | nil => cases h
  | cons slot slots ih =>
    cases slot with
    | none =>
      cases h
      exact .refl _
    | some p =>
      obtain ⟨rest, found, rfl⟩ := Option.map_eq_some_iff.1 h
      exact ((ih found).cons p).trans (.swap pid p _)

theorem length_freeFirst : (freeFirst pid slots).length = slots.length := by
  induction slots with
  | nil => rfl
  | cons slot slots ih =>
    rw [freeFirst]
    split
    · rfl
    · simp [ih]

/-- To free a slot takes the job off the list. -/
theorem filterMap_freeFirst :
    (freeFirst pid slots).filterMap id = (slots.filterMap id).erase pid := by
  induction slots with
  | nil => rfl
  | cons slot slots ih =>
    rw [freeFirst]
    cases slot with
    | none => exact ih
    | some p =>
      rw [filterMap_id_cons_some]
      by_cases same : p = pid
      · rw [if_pos (congrArg some same), same, List.erase_cons_head]
        rfl
      · rw [if_neg (same <| Option.some.inj ·), filterMap_id_cons_some, ih,
          List.erase_cons_tail (by simpa using same)]

theorem freeFirst_of_not_mem (absent : some pid ∉ slots) : freeFirst pid slots = slots := by
  induction slots with
  | nil => rfl
  | cons slot slots ih =>
    rw [List.mem_cons, not_or] at absent
    rw [freeFirst, if_neg fun same => absent.1 same.symm, ih absent.2]

/-- The slot that is freed is the one that was filled, for none before it holds the process id. -/
theorem freeFirst_fillFirst (absent : some pid ∉ slots)
    (h : fillFirst pid slots = some filled) : freeFirst pid filled = slots := by
  induction slots generalizing filled with
  | nil => cases h
  | cons slot slots ih =>
    rw [List.mem_cons, not_or] at absent
    cases slot with
    | none =>
      cases h
      simp [freeFirst]
    | some p =>
      obtain ⟨rest, found, rfl⟩ := Option.map_eq_some_iff.1 h
      rw [freeFirst, if_neg fun same => absent.1 same.symm, ih absent.2 found]

/-! ## The table -/

/-- The jobs of a table are those in its slots. -/
theorem mem_toList : pid ∈ t.toList ↔ some pid ∈ t.slots := by
  simp [toList]

theorem contains_iff : t.contains pid = true ↔ pid ∈ t.toList := by
  simp [contains, mem_toList]

@[simp] theorem toList_empty (capacity : Nat) : (empty capacity).toList = [] := by
  simp [empty, toList]

@[simp] theorem capacity_empty (capacity : Nat) : (empty capacity).capacity = capacity := by
  simp [empty, JobTable.capacity]

theorem length_toList_le_capacity : t.toList.length ≤ t.capacity :=
  List.length_filterMap_le id t.slots

/-- There is a free slot exactly while fewer process ids are stored than there are slots. -/
theorem length_toList_lt_capacity_iff : t.toList.length < t.capacity ↔ none ∈ t.slots := by
  simp [toList, JobTable.capacity, List.length_filterMap_lt_length_iff_exists]

/-- A job that finds a free slot is added to the others. -/
theorem toList_track_perm (absent : pid ∉ t.toList) (room : t.toList.length < t.capacity) :
    (t.track pid).1.toList.Perm (pid :: t.toList) := by
  have missing : ¬ t.contains pid = true := fun h => absent (contains_iff.1 h)
  unfold track
  rw [if_neg missing]
  cases found : fillFirst pid t.slots with
  | none => exact absurd (length_toList_lt_capacity_iff.1 room) (fillFirst_eq_none_iff.1 found)
  | some filled => exact filterMap_fillFirst_perm found

theorem track_of_full (full : t.capacity ≤ t.toList.length) : (t.track pid).1 = t := by
  have none_free : none ∉ t.slots := by
    rw [← length_toList_lt_capacity_iff]
    omega
  unfold track
  split
  · rfl
  · rw [fillFirst_eq_none_iff.2 none_free]

@[simp] theorem capacity_track : (t.track pid).1.capacity = t.capacity := by
  unfold track
  split
  · rfl
  · cases found : fillFirst pid t.slots with
    | none => rfl
    | some filled => exact length_fillFirst found

theorem mem_toList_of_mem_track (h : q ∈ (t.track pid).1.toList) : q = pid ∨ q ∈ t.toList := by
  by_cases present : pid ∈ t.toList
  · rw [track, if_pos (contains_iff.2 present)] at h
    exact .inr h
  · by_cases room : t.toList.length < t.capacity
    · exact List.mem_cons.1 ((toList_track_perm present room).mem_iff.1 h)
    · rw [track_of_full (Nat.le_of_not_lt room)] at h
      exact .inr h

theorem nodup_toList_track (distinct : t.toList.Nodup) : (t.track pid).1.toList.Nodup := by
  by_cases present : pid ∈ t.toList
  · rwa [track, if_pos (contains_iff.2 present)]
  · by_cases room : t.toList.length < t.capacity
    · exact (toList_track_perm present room).nodup_iff.2 (List.nodup_cons.2 ⟨present, distinct⟩)
    · rwa [track_of_full (Nat.le_of_not_lt room)]

@[simp] theorem capacity_untrack : (t.untrack pid).capacity = t.capacity :=
  length_freeFirst

theorem toList_untrack : (t.untrack pid).toList = t.toList.erase pid :=
  filterMap_freeFirst

theorem nodup_toList_untrack (distinct : t.toList.Nodup) : (t.untrack pid).toList.Nodup := by
  rw [toList_untrack]
  exact distinct.erase pid

theorem mem_toList_untrack (distinct : t.toList.Nodup) :
    q ∈ (t.untrack pid).toList ↔ q ≠ pid ∧ q ∈ t.toList := by
  rw [toList_untrack, distinct.mem_erase_iff]

theorem untrack_of_not_mem (absent : pid ∉ t.toList) : t.untrack pid = t := by
  unfold untrack
  rw [freeFirst_of_not_mem fun h => absent (mem_toList.2 h)]

/-- A job that has come and gone leaves no trace, whether or not there was a slot for it. -/
theorem untrack_track (absent : pid ∉ t.toList) : (t.track pid).1.untrack pid = t := by
  have missing : ¬ t.contains pid = true := fun h => absent (contains_iff.1 h)
  unfold track
  rw [if_neg missing]
  cases found : fillFirst pid t.slots with
  | none => exact untrack_of_not_mem absent
  | some filled =>
    show (⟨freeFirst pid filled⟩ : JobTable) = t
    rw [freeFirst_fillFirst (fun h => absent (mem_toList.2 h)) found]

end JobShell.JobTable
