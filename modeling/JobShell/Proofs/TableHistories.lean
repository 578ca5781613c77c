import JobShell.Proofs.JobTable
import Mathlib.Data.Finset.Card

/-!
# The job table, over whole histories

Whatever is done with a new job table, it stands for a set of process ids that is never larger than
the table has slots. `onSet` says what each operation does to the set, `onSlots` what it does to the
slots: a process id goes into the free slot with the lowest number and keeps that slot until it is
taken out.

* `Represents.perform`: what one operation keeps.
* `performAll_refines_bounded_set`: what holds after any number of them.
-/

namespace JobShell.JobTable

variable {t : JobTable} {pid q : Pid} {slots : List (Option Pid)} {capacity i j : Nat}

/-! ## Slots -/

/-- The slot that is filled is the first free one. -/
theorem fillFirst_eq : fillFirst pid slots =
    if none ∈ slots then some (slots.set (slots.idxOf none) (some pid)) else none := by
  induction slots with
  | nil => rfl
  | cons slot slots ih =>
    cases slot with
    | none => rw [fillFirst, if_pos List.mem_cons_self, List.idxOf_cons_self, List.set_cons_zero]
    | some p =>
      have later : List.idxOf none (some p :: slots) = List.idxOf none slots + 1 :=
        List.idxOf_cons_ne _ (Option.some_ne_none p)
      rw [fillFirst, ih, later, List.set_cons_succ]
      by_cases free : none ∈ slots <;> simp [free]

/-- No process id is in two slots. -/
theorem nodup_filterMap_iff : (slots.filterMap id).Nodup ↔
    slots.Pairwise fun slot later => ∀ pid, slot = some pid → later ≠ some pid := by
  rw [List.Nodup, List.pairwise_filterMap]
  refine List.Pairwise.iff fun slot later =>
    ⟨fun h pid here there => ?_, fun h p here q there => ?_⟩
  · exact h pid here pid there rfl
  · rintro rfl
    exact h p here there

/-- Where no job has two slots, its slot is known by the job. -/
theorem eq_of_slots (distinct : (slots.filterMap id).Nodup) (left : slots[i]? = some (some pid))
    (right : slots[j]? = some (some pid)) : i = j := by
  obtain ⟨here, left⟩ := List.getElem?_eq_some_iff.1 left
  obtain ⟨there, right⟩ := List.getElem?_eq_some_iff.1 right
  have apart := List.pairwise_iff_getElem.1 (nodup_filterMap_iff.1 distinct)
  rcases Nat.lt_trichotomy i j with before | same | after
  · exact absurd right (apart i j here there before pid left)
  · exact same
  · exact absurd left (apart j i there here after pid right)

/-- While no process id is in two slots, to free the first slot of one is to free all. -/
theorem freeFirst_eq_map (distinct : (slots.filterMap id).Nodup) :
    freeFirst pid slots = slots.map fun slot => if slot = some pid then none else slot := by
  rw [nodup_filterMap_iff] at distinct
  induction slots with
  | nil => rfl
  | cons slot slots ih =>
    obtain ⟨own, distinct⟩ := List.pairwise_cons.1 distinct
    rw [freeFirst, List.map_cons]
    by_cases same : slot = some pid
    · have others : (slots.map fun slot => if slot = some pid then none else slot) = slots := by
        rw [List.map_congr_left fun later member => if_neg (own later member pid same),
          List.map_id']
      rw [if_pos same, if_pos same, others]
    · rw [if_neg same, if_neg same, ih distinct]

/-- The slots are visited in order, the free ones passed over, and all are free afterwards. -/
theorem visitSlots_eq {m : Type → Type} [Monad m] [LawfulMonad m] (visit : Pid → m Unit)
    (slots : List (Option Pid)) : visitSlots visit slots = do
      (slots.filterMap id).forM visit
      return List.replicate slots.length none := by
  induction slots with
  | nil => simp [visitSlots]
  | cons slot slots ih => cases slot <;> simp [visitSlots, ih, List.replicate_succ]

/-- Every stored process id is visited, in slot order, and the table is as good as new. -/
theorem forEach_eq {m : Type → Type} [Monad m] [LawfulMonad m] (visit : Pid → m Unit)
    (t : JobTable) : t.forEach visit = do
      t.toList.forM visit
      return empty t.capacity := by
  simp [forEach, visitSlots_eq, toList, empty, JobTable.capacity]

/-- A visitor that notes what it sees has seen the jobs in order. -/
theorem run_forM_note (pids seen : List Pid) : (pids.forM note).run seen = ((), seen ++ pids) := by
  induction pids generalizing seen with
  | nil => exact congrArg _ (List.append_nil seen).symm
  | cons pid pids ih =>
    show (pids.forM note).run (seen ++ [pid]) = _
    rw [ih, List.append_assoc, List.singleton_append]

/-- To drain a table gives its jobs and leaves it empty. -/
theorem drain_eq_toList (t : JobTable) : t.drain = (t.toList, empty t.capacity) := by
  have run : (t.forEach note).run [] = (empty t.capacity, t.toList) := by
    rw [forEach_eq, StateT.run_bind, run_forM_note]
    rfl
  rw [drain, run]

/-! ## Operations -/

namespace Operation

/-- What an operation makes of a set that has room for `capacity` process ids. -/
def onSet (capacity : Nat) (S : Finset Pid) : Operation → Finset Pid
  | .track pid => if pid ∈ S ∨ S.card < capacity then insert pid S else S
  | .untrack pid => S.erase pid
  | .contains _ => S
  | .drain => ∅

/-- What an operation makes of slots. -/
def onSlots (slots : List (Option Pid)) : Operation → List (Option Pid)
  | .track pid =>
    if some pid ∈ slots ∨ none ∉ slots then slots else slots.set (slots.idxOf none) (some pid)
  | .untrack pid => slots.map fun slot => if slot = some pid then none else slot
  | .contains _ => slots
  | .drain => List.replicate slots.length none

/-- What has to come back from an operation: of a drain the members of the set, in slot order. -/
def answer (capacity : Nat) (S : Finset Pid) (slots : List (Option Pid)) : Operation → Answer
  | .track pid => .flag (pid ∈ S ∨ S.card < capacity)
  | .untrack _ => .done
  | .contains pid => .flag (pid ∈ S)
  | .drain => .visited (slots.filterMap id)

end Operation

/-! ## The set that a table stands for -/

/-- A table stands for a set that has room for `capacity` process ids. -/
structure Represents (capacity : Nat) (S : Finset Pid) (t : JobTable) : Prop where
  capacity : t.capacity = capacity
  distinct : t.toList.Nodup
  members : t.toList.toFinset = S

variable {S : Finset Pid}

namespace Represents

theorem mem_iff (h : Represents capacity S t) : pid ∈ S ↔ pid ∈ t.toList := by
  rw [← h.members, List.mem_toFinset]

theorem size (h : Represents capacity S t) : t.size = S.card := by
  rw [JobTable.size, ← h.members, List.toFinset_card_of_nodup h.distinct]

/-- There is room in the set exactly if a slot is free. -/
theorem free_iff (h : Represents capacity S t) : S.card < capacity ↔ none ∈ t.slots := by
  rw [← h.size, ← h.capacity]
  exact length_toList_lt_capacity_iff

theorem card_le (h : Represents capacity S t) : S.card ≤ capacity := by
  rw [← h.size, ← h.capacity]
  exact length_toList_le_capacity

theorem contains (h : Represents capacity S t) : t.contains pid = decide (pid ∈ S) := by
  rw [Bool.eq_iff_iff, contains_iff, decide_eq_true_iff, h.mem_iff]

theorem isEmpty (h : Represents capacity S t) : t.isEmpty = decide (S = ∅) := by
  rw [Bool.eq_iff_iff, JobTable.isEmpty, h.size, beq_iff_eq, decide_eq_true_iff,
    Finset.card_eq_zero]

end Represents

theorem represents_empty (capacity : Nat) : Represents capacity ∅ (empty capacity) :=
  ⟨capacity_empty capacity, by simp, by simp⟩

theorem slots_track : (t.track pid).1.slots = (Operation.track pid).onSlots t.slots := by
  have present : t.contains pid = true ↔ some pid ∈ t.slots := contains_iff.trans mem_toList
  unfold track
  rw [Operation.onSlots, fillFirst_eq]
  by_cases stored : some pid ∈ t.slots
  · rw [if_pos (present.2 stored), if_pos (.inl stored)]
  · rw [if_neg (present.not.2 stored)]
    by_cases free : none ∈ t.slots
    · rw [if_pos free, if_neg (by simp [stored, free])]
    · rw [if_neg free, if_pos (.inr free)]

/-- Tracking succeeds if the job is there already or a slot is free. -/
theorem track_answer : (t.track pid).2 = decide (some pid ∈ t.slots ∨ none ∈ t.slots) := by
  have present : t.contains pid = true ↔ some pid ∈ t.slots := contains_iff.trans mem_toList
  unfold track
  rw [fillFirst_eq]
  by_cases stored : some pid ∈ t.slots
  · rw [if_pos (present.2 stored)]
    simp [stored]
  · rw [if_neg (present.not.2 stored)]
    by_cases free : none ∈ t.slots <;> simp [stored, free]

namespace Represents

/-- Tracking adds the job to the set if there is room. -/
theorem track (h : Represents capacity S t) (pid : Pid) :
    Represents capacity ((Operation.track pid).onSet capacity S) (t.track pid).1 := by
  refine ⟨capacity_track.trans h.capacity, nodup_toList_track h.distinct, ?_⟩
  rw [Operation.onSet]
  by_cases stored : pid ∈ S
  · have same : (t.track pid).1 = t := by
      rw [JobTable.track, if_pos (contains_iff.2 (h.mem_iff.1 stored))]
    rw [if_pos (.inl stored), Finset.insert_eq_of_mem stored, same, h.members]
  · by_cases room : S.card < capacity
    · have grown : (t.track pid).1.toList.Perm (pid :: t.toList) := by
        refine toList_track_perm (h.mem_iff.not.1 stored) ?_
        rw [h.capacity]
        exact h.size.trans_lt room
      rw [if_pos (.inr room), List.toFinset_eq_of_perm _ _ grown, List.toFinset_cons, h.members]
    · have full : t.capacity ≤ t.toList.length := by
        rw [h.capacity]
        exact (Nat.le_of_not_lt room).trans_eq h.size.symm
      rw [if_neg (not_or.2 ⟨stored, room⟩), track_of_full full, h.members]

theorem untrack (h : Represents capacity S t) (pid : Pid) :
    Represents capacity (S.erase pid) (t.untrack pid) := by
  refine ⟨capacity_untrack.trans h.capacity, nodup_toList_untrack h.distinct, ?_⟩
  ext q
  rw [List.mem_toFinset, mem_toList_untrack h.distinct, Finset.mem_erase, h.mem_iff]

/-- What one operation keeps: the table stands for the set that the operation makes. -/
theorem perform (h : Represents capacity S t) (operation : Operation) :
    Represents capacity (operation.onSet capacity S) (t.perform operation).1 := by
  cases operation with
  | track pid => exact h.track pid
  | untrack pid => exact h.untrack pid
  | contains pid => exact h
  | drain =>
    rw [JobTable.perform, drain_eq_toList, h.capacity]
    exact represents_empty capacity

/-- A whole history refines that of the set, by induction on the operations. -/
theorem performAll (h : Represents capacity S t) (history : List Operation) :
    Represents capacity (history.foldl (Operation.onSet capacity) S) (t.performAll history) := by
  induction history generalizing S t with
  | nil => exact h
  | cons operation history ih => exact ih (h.perform operation)

/-- Each operation gives the answer that the set gives. -/
theorem answer_perform (h : Represents capacity S t) (operation : Operation) :
    (t.perform operation).2 = operation.answer capacity S t.slots := by
  cases operation with
  | track pid =>
    have same : (some pid ∈ t.slots ∨ none ∈ t.slots) ↔ (pid ∈ S ∨ S.card < capacity) := by
      rw [h.free_iff, h.mem_iff, mem_toList]
    rw [JobTable.perform, Operation.answer, track_answer, decide_eq_decide.2 same]
  | untrack pid => rfl
  | contains pid => rw [JobTable.perform, Operation.answer, h.contains]
  | drain =>
    rw [JobTable.perform, drain_eq_toList]
    rfl

/-- Each operation does to the slots what it is said to do. -/
theorem slots_perform (h : Represents capacity S t) (operation : Operation) :
    (t.perform operation).1.slots = operation.onSlots t.slots := by
  cases operation with
  | track pid => exact slots_track
  | untrack pid => exact freeFirst_eq_map h.distinct
  | contains pid => rfl
  | drain =>
    rw [JobTable.perform, drain_eq_toList]
    rfl

end Represents

/-- A process id keeps its slot until it is taken out. -/
theorem onSlots_keeps {operation : Operation} (here : slots[i]? = some (some q))
    (stays : operation ≠ .untrack q) (undrained : operation ≠ .drain) :
    (operation.onSlots slots)[i]? = some (some q) := by
  cases operation with
  | track pid =>
    rw [Operation.onSlots]
    split
    · exact here
    · rename_i free
      have unfree : slots.idxOf none ≠ i := by
        rintro rfl
        rw [List.getElem?_idxOf (not_not.1 (not_or.1 free).2)] at here
        cases here
      rw [List.getElem?_set_ne unfree, here]
  | untrack pid =>
    have other : q ≠ pid := fun same => stays (same ▸ rfl)
    rw [Operation.onSlots, List.getElem?_map, here]
    simp [other]
  | contains pid => exact here
  | drain => exact absurd rfl undrained

/-! ## Histories -/

/-- After any history of a new table it stands for the set that the history makes, of at most as
many process ids as there are slots, no process id is in two slots, and the number of slots is the
same. The next operation answers as the set demands. A new process id goes into the first free slot;
all others keep theirs until they are taken out. To go through the table is to visit each stored
process id once, in slot order, and leaves a table that is as good as new. -/
theorem performAll_refines_bounded_set (capacity : Nat) (history : List Operation) :
    let t := (empty capacity).performAll history
    let S := history.foldl (Operation.onSet capacity) ∅
    (Represents capacity S t ∧ S.card ≤ capacity ∧ t.size = S.card ∧
      t.isEmpty = decide (S = ∅) ∧
      ∀ (i j : Nat) (pid : Pid),
        t.slots[i]? = some (some pid) → t.slots[j]? = some (some pid) → i = j) ∧
    (∀ operation : Operation,
      (t.perform operation).2 = operation.answer capacity S t.slots ∧
      (t.perform operation).1.slots = operation.onSlots t.slots ∧
      ∀ (i : Nat) (q : Pid), t.slots[i]? = some (some q) →
        operation ≠ .untrack q → operation ≠ .drain →
          (t.perform operation).1.slots[i]? = some (some q)) ∧
    ∀ (m : Type → Type) [Monad m] [LawfulMonad m] (visit : Pid → m Unit),
      t.forEach visit = do
        t.toList.forM visit
        return empty capacity := by
  intro t S
  have stands : Represents capacity S t := (represents_empty capacity).performAll history
  refine ⟨⟨stands, stands.card_le, stands.size, stands.isEmpty, fun i j pid left right => ?_⟩,
    fun operation => ?_, fun m _ _ visit => ?_⟩
  · exact eq_of_slots stands.distinct left right
  · have moved := stands.slots_perform operation
    refine ⟨stands.answer_perform operation, moved, fun i q here stays undrained => ?_⟩
    rw [moved]
    exact onSlots_keeps here stays undrained
  · rw [forEach_eq, stands.capacity]

/-- Of two slots the first has been freed and is taken again, and there is no room for one more. -/
theorem performAll_refines_bounded_set_of_reused_slot :
    let t := (empty 2).performAll [.track 7, .track 8, .track 9, .untrack 7, .track 9]
    t.slots = [some 9, some 8] ∧ t.perform (.track 7) = (t, .flag false) ∧
      (t.perform (.untrack 9)).1.slots[1]? = some (some 8) ∧
      t.forEach note = do
        t.toList.forM note
        return empty 2 := by
  intro t
  obtain ⟨-, next, visits⟩ :=
    performAll_refines_bounded_set 2 [.track 7, .track 8, .track 9, .untrack 7, .track 9]
  exact ⟨by decide, by decide, (next (.untrack 9)).2.2 1 8 (by decide) (by decide) (by decide),
    visits (StateM (List Pid)) note⟩

end JobShell.JobTable
