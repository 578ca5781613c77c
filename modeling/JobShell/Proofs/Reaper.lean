import JobShell.Proofs.Execution
import Mathlib.Data.List.TakeWhile

/-!
# A pass of the reaper

A pass takes its turns with the dead children, oldest first. `Reaped` lists what the turns come to:
a child whose end can be told is dismissed and the pass goes on, one whose end cannot be told is
collected and the pass is over.

* `reaped_reap`: a pass comes to nothing else.
* `dead_reap`: which of the dead children a pass leaves behind.
* `reap_clears_iff`: the passes that leave no dead child behind, nor a collected one in the job
  table.
-/

namespace JobShell

theorem mem_dropWhile_of_not {α : Type} {p : α → Bool} {xs : List α} {x : α} (member : x ∈ xs)
    (fails : p x = false) : x ∈ xs.dropWhile p := by
  rw [← List.takeWhile_append_dropWhile (p := p) (l := xs), List.mem_append] at member
  refine member.resolve_left fun taken => ?_
  rw [List.mem_takeWhile_imp taken] at fails
  cases fails

/-! ## The dead children -/

namespace Children

variable {cs : Children} {c : Child} {pid : Pid} {how : Termination}

/-- The dead children, with the ends they have come to. -/
theorem mem_dead : (pid, how) ∈ cs.dead ↔ ∃ c ∈ cs, c.pid = pid ∧ c.state = .dead how := by
  unfold dead
  rw [List.mem_filterMap]
  refine exists_congr fun c => and_congr_right fun _ => ?_
  split
  · rename_i other state
    rw [state]
    simp
  · rename_i alive
    simpa using fun _ => alive how

theorem dead_cons_of_dead (state : c.state = .dead how) :
    dead (c :: cs) = (c.pid, how) :: cs.dead := by
  rw [dead, List.filterMap_cons, state]
  rfl

theorem dead_cons_of_alive (alive : c.state.IsAlive) : dead (c :: cs) = cs.dead := by
  rw [dead, List.filterMap_cons]
  split
  · rfl
  · rename_i found
    split at found
    · rename_i how state
      exact absurd state (alive how)
    · cases found

/-- Where no process id is used twice, each child is found by its own. -/
theorem find?_of_mem (distinct : (cs.map (·.pid)).Nodup) (member : c ∈ cs) :
    cs.find? c.pid = some c := by
  induction cs with
  | nil => cases member
  | cons d cs ih =>
    rw [List.map_cons, List.nodup_cons] at distinct
    rw [find?, List.find?_cons]
    rcases List.mem_cons.1 member with rfl | member
    · rw [beq_self_eq_true]
    · have other : (d.pid == c.pid) = false := by
        refine beq_eq_false_iff_ne.2 fun same => distinct.1 ?_
        exact List.mem_map.2 ⟨c, member, same.symm⟩
      rw [other]
      exact ih distinct.2 member

/-- The first of the dead children is the one that a wait hands out. -/
theorem dead_collect_ready (distinct : (cs.map (·.pid)).Nodup)
    (ready : cs.ready? = some (pid, how)) : cs.dead = (pid, how) :: (cs.collect pid).dead := by
  induction cs with
  | nil => cases ready
  | cons c cs ih =>
    rw [List.map_cons, List.nodup_cons] at distinct
    by_cases alive : c.state.IsAlive
    · rw [ready?, dead_cons_of_alive alive] at ready
      have here := ih distinct.2 ready
      have later : c.pid ≠ pid := by
        rintro rfl
        have member : (c.pid, how) ∈ dead cs := here ▸ List.mem_cons_self
        obtain ⟨d, among, same, -⟩ := mem_dead.1 member
        exact distinct.1 (List.mem_map.2 ⟨d, among, same⟩)
      have stays : collect (c :: cs) pid = c :: collect cs pid :=
        List.filter_cons_of_pos (by simpa using later)
      rw [dead_cons_of_alive alive, here, stays, dead_cons_of_alive alive]
    · obtain ⟨how', state⟩ : ∃ how, c.state = .dead how := by
        simpa [ChildState.IsAlive] using alive
      rw [ready?, dead_cons_of_dead state] at ready
      cases ready
      have others : cs.filter (·.pid != c.pid) = cs :=
        List.filter_eq_self.2 fun d member => by
          simpa using fun same : d.pid = c.pid => distinct.1 (List.mem_map.2 ⟨d, member, same⟩)
      rw [dead_cons_of_dead state, collect, List.filter_cons_of_neg (by simp), others]

end Children

namespace Session

variable {s s' : Session} {pid q : Pid} {how : Termination} {r : Session × Outcome}

/-- The dead children of a session are those whose state says so. -/
theorem mem_dead_iff (distinct : s.pids.Nodup) :
    (pid, how) ∈ s.machine.children.dead ↔ s.stateOf pid = some (.dead how) := by
  rw [Children.mem_dead]
  constructor
  · rintro ⟨c, member, rfl, state⟩
    rw [stateOf, Children.find?_of_mem distinct member, Option.map_some, state]
  · intro dead
    obtain ⟨c, found, state⟩ := Option.map_eq_some_iff.1 dead
    exact ⟨c, List.mem_of_find?_eq_some found, (mem_pids_of_find? found).1, state⟩

theorem stateOf_of_ready (distinct : s.pids.Nodup)
    (ready : s.machine.children.ready? = some (pid, how)) :
    s.stateOf pid = some (.dead how) :=
  (mem_dead_iff distinct).1 (List.mem_of_head? ready)

/-! ## Turns -/

/-- A dead child is collected, reported and taken off the job table. -/
def dismiss (s : Session) (pid : Pid) (how : Termination) : Session :=
  ((s.collect pid).say (.done pid how)).untrack pid

theorem stateOf_dismiss (s : Session) (pid : Pid) (how : Termination) (q : Pid) :
    (s.dismiss pid how).stateOf q = if q = pid then none else s.stateOf q :=
  stateOf_collect s pid q

theorem pids_dismiss (s : Session) (pid : Pid) (how : Termination) :
    (s.dismiss pid how).pids = s.pids.filter (· != pid) :=
  pids_collect s pid

/-- A dismissed child is collected and reported, in this order. -/
theorem transcript_dismiss (s : Session) (pid : Pid) (how : Termination) :
    (s.dismiss pid how).machine.transcript =
      s.machine.transcript ++ [.collected pid, .said (.done pid how)] :=
  List.append_assoc _ _ _

theorem nodup_pids_dismiss (distinct : s.pids.Nodup) (pid : Pid) (how : Termination) :
    (s.dismiss pid how).pids.Nodup := by
  rw [pids_dismiss]
  exact distinct.filter _

/-- A turn of the reaper with a child whose end can be told. -/
theorem reapChild_of_isClassic (known : how.isClassic = true) :
    s.reapChild pid how = (s.dismiss pid how, .ok) := by
  rw [reapChild_eq, Termination.decode_of_isClassic known]
  rfl

/-- A turn with one whose end cannot be told: it is collected all the same, and keeps its slot. -/
theorem reapChild_of_not_isClassic (unknown : how.isClassic = false) :
    s.reapChild pid how = (s.collect pid, .error (.system .invalidArgument)) := by
  rw [reapChild_eq, Termination.decode_of_not_isClassic unknown]

/-- What a pass of the reaper comes to. -/
inductive Reaped : Session → Session × Outcome → Prop
  | idle {s : Session} : s.machine.children.ready? = none → Reaped s (s, .ok)
  | lost {s : Session} {pid : Pid} {how : Termination} :
    s.machine.children.ready? = some (pid, how) → how.isClassic = false →
    Reaped s (s.collect pid, .error (.system .invalidArgument))
  | next {s : Session} {pid : Pid} {how : Termination} {r : Session × Outcome} :
    s.machine.children.ready? = some (pid, how) → how.isClassic = true →
    Reaped (s.dismiss pid how) r → Reaped s r

/-- The reaper's pass, turn by turn. -/
theorem reaped_reap (s : Session) : Reaped s s.reap := by
  unfold reap
  rw [drain_eq]
  split
  · rename_i none_ready
    exact .idle none_ready
  · rename_i pid how ready
    have shrinks : (s.dismiss pid how).machine.children.length < s.machine.children.length :=
      length_collect_lt ready
    change Reaped s (if (s.reapChild pid how).2 = .ok then (s.reapChild pid how).1.drain []
      else s.reapChild pid how)
    cases known : how.isClassic with
    | true =>
      rw [reapChild_of_isClassic known, if_pos rfl]
      exact .next ready known (reaped_reap (s.dismiss pid how))
    | false =>
      rw [reapChild_of_not_isClassic known, if_neg Outcome.noConfusion]
      exact .lost ready known
termination_by s.machine.children.length

/-! ## Whole passes -/

/-- A pass tells of nothing but children collected and reported. -/
theorem Reaped.extends (h : Reaped s r) :
    s.machine.transcript.Extends (·.isReaping = true) r.1.machine.transcript := by
  induction h with
  | idle _ => exact .refl _ _
  | lost _ _ => exact .single rfl
  | next _ _ _ ih =>
    refine .trans ⟨_, transcript_dismiss _ _ _, ?_⟩ ih
    simp [Entry.isReaping]

theorem Reaped.nodup_pids (h : Reaped s r) (distinct : s.pids.Nodup) : r.1.pids.Nodup := by
  induction h with
  | idle _ => exact distinct
  | lost _ _ =>
    rw [pids_collect]
    exact distinct.filter _
  | next _ _ _ ih => exact ih (nodup_pids_dismiss distinct _ _)

/-- A pass that is not cut short leaves no dead child behind. -/
theorem Reaped.dead_of_ok (h : Reaped s r) (ok : r.2 = .ok) : r.1.machine.children.dead = [] := by
  induction h with
  | idle none_ready => exact List.head?_eq_none_iff.1 none_ready
  | lost _ _ => cases ok
  | next _ _ _ ih => exact ih ok

/-- The dead that are left are those behind the first whose end cannot be told. -/
theorem Reaped.dead (h : Reaped s r) (distinct : s.pids.Nodup) :
    r.1.machine.children.dead = (s.machine.children.dead.dropWhile (·.2.isClassic)).tail := by
  induction h with
  | @idle s none_ready =>
    have none_dead : s.machine.children.dead = [] := List.head?_eq_none_iff.1 none_ready
    rw [none_dead]
    rfl
  | lost ready unknown =>
    rw [Children.dead_collect_ready distinct ready, List.dropWhile_cons_of_neg (by simp [unknown])]
    rfl
  | next ready known _ ih =>
    rw [ih (nodup_pids_dismiss distinct _ _), Children.dead_collect_ready distinct ready,
      List.dropWhile_cons, if_pos known]
    rfl

/-- The dead children that a pass leaves behind are those after the first whose end it cannot
tell. -/
theorem dead_reap (distinct : s.pids.Nodup) :
    s.reap.1.machine.children.dead =
      (s.machine.children.dead.dropWhile (·.2.isClassic)).tail :=
  (reaped_reap s).dead distinct

/-- What a pass does with one process id: whether it is that of a child, and whether it is in the
job table. -/
inductive Dealt (s s' : Session) (pid : Pid) : Prop
  | kept : s'.stateOf pid = s.stateOf pid → (pid ∈ s'.jobs.toList ↔ pid ∈ s.jobs.toList) →
    Dealt s s' pid
  | dismissed {how : Termination} : s.stateOf pid = some (.dead how) → how.isClassic = true →
    s'.stateOf pid = none → pid ∉ s'.jobs.toList → Dealt s s' pid
  | lost {how : Termination} : s.stateOf pid = some (.dead how) → how.isClassic = false →
    s'.stateOf pid = none → (pid ∈ s'.jobs.toList ↔ pid ∈ s.jobs.toList) → Dealt s s' pid

/-- A process id that is neither a child's nor in the table stays so. -/
theorem Reaped.of_absent (h : Reaped s r) (table : s.jobs.toList.Nodup)
    (gone : s.stateOf pid = none) (untracked : pid ∉ s.jobs.toList) :
    r.1.stateOf pid = none ∧ pid ∉ r.1.jobs.toList := by
  induction h with
  | idle _ => exact ⟨gone, untracked⟩
  | lost _ _ =>
    rw [stateOf_collect, gone, ite_self]
    exact ⟨rfl, untracked⟩
  | next _ _ _ ih =>
    refine ih (JobTable.nodup_toList_untrack table) ?_ fun member => ?_
    · rw [stateOf_dismiss, gone, ite_self]
    · exact untracked ((JobTable.mem_toList_untrack table).1 member).2

/-- What a pass does with any process id. -/
theorem Reaped.dealt (h : Reaped s r) (distinct : s.pids.Nodup) (table : s.jobs.toList.Nodup)
    (q : Pid) : Dealt s r.1 q := by
  induction h with
  | idle _ => exact .kept rfl Iff.rfl
  | @lost s pid how ready unknown =>
    by_cases same : q = pid
    · subst same
      refine .lost (stateOf_of_ready distinct ready) unknown ?_ Iff.rfl
      rw [stateOf_collect, if_pos rfl]
    · refine .kept ?_ Iff.rfl
      rw [stateOf_collect, if_neg same]
  | @next s pid how r ready known rest ih =>
    have table' : (s.dismiss pid how).jobs.toList.Nodup := JobTable.nodup_toList_untrack table
    have tracked : ∀ p, p ∈ (s.dismiss pid how).jobs.toList ↔ p ≠ pid ∧ p ∈ s.jobs.toList :=
      fun p => JobTable.mem_toList_untrack table
    by_cases same : q = pid
    · subst same
      have gone : (s.dismiss q how).stateOf q = none := by rw [stateOf_dismiss, if_pos rfl]
      have untracked : q ∉ (s.dismiss q how).jobs.toList := fun member =>
        ((tracked q).1 member).1 rfl
      obtain ⟨state, off⟩ := rest.of_absent table' gone untracked
      exact .dismissed (stateOf_of_ready distinct ready) known state off
    · have state : (s.dismiss pid how).stateOf q = s.stateOf q := by
        rw [stateOf_dismiss, if_neg same]
      have job : q ∈ (s.dismiss pid how).jobs.toList ↔ q ∈ s.jobs.toList := by
        rw [tracked]
        exact and_iff_right same
      cases ih (nodup_pids_dismiss distinct pid how) table' with
      | kept kept jobs => exact .kept (kept.trans state) (jobs.trans job)
      | dismissed dead known gone off => exact .dismissed (state ▸ dead) known gone off
      | lost dead unknown gone jobs => exact .lost (state ▸ dead) unknown gone (jobs.trans job)

/-! ## Passes that clear everything -/

/-- Between `s` and `s'` every dead child has been collected, and what has been collected is not in
the job table. -/
structure Clears (s s' : Session) : Prop where
  collected : ∀ pid how, s.stateOf pid = some (.dead how) → pid ∉ s'.pids
  untracked : ∀ pid ∈ s.pids, pid ∉ s'.pids → pid ∉ s'.jobs.toList

/-- A dead child that is still there after a pass is still dead. -/
theorem Dealt.dead_of_mem (dealt : Dealt s s' pid) (dead : s.stateOf pid = some (.dead how))
    (left : pid ∈ s'.pids) : s'.stateOf pid = some (.dead how) := by
  cases dealt with
  | kept kept _ => exact kept.trans dead
  | dismissed _ _ gone _ => exact absurd left (stateOf_eq_none_iff.1 gone)
  | lost _ _ gone _ => exact absurd left (stateOf_eq_none_iff.1 gone)

/-- A child that has been collected keeps its slot only if its end cannot be told. -/
theorem Dealt.of_gone (dealt : Dealt s s' pid) (there : pid ∈ s.pids) (gone : pid ∉ s'.pids) :
    ∃ how, s.stateOf pid = some (.dead how) ∧
      (pid ∈ s'.jobs.toList ↔ how.isClassic = false ∧ pid ∈ s.jobs.toList) := by
  cases dealt with
  | kept kept _ =>
    obtain ⟨state, known⟩ := mem_pids_iff.1 there
    exact absurd (mem_pids_iff.2 ⟨state, kept.trans known⟩) gone
  | dismissed dead known _ off => exact ⟨_, dead, by simp [known, off]⟩
  | lost dead unknown _ jobs => exact ⟨_, dead, by simp [unknown, jobs]⟩

/-- A pass clears everything exactly if the first dead child whose end it cannot tell, if there is
one, is the last of the dead children and has no slot in the job table. -/
theorem reap_clears_iff (distinct : s.pids.Nodup) (table : s.jobs.toList.Nodup) :
    Clears s s.reap.1 ↔ ∀ first rest,
      s.machine.children.dead.dropWhile (·.2.isClassic) = first :: rest →
        rest = [] ∧ first.1 ∉ s.jobs.toList := by
  have dealt := (reaped_reap s).dealt distinct table
  have distinct' := (reaped_reap s).nodup_pids distinct
  have left := dead_reap distinct
  constructor
  · -- The pass ends with the first child whose end it cannot tell: it leaves those behind that one.
    rintro ⟨collected, untracked⟩ ⟨pid, how⟩ rest parts
    have unknown : how.isClassic = false := by
      have head := List.head?_dropWhile_not (fun d : Pid × Termination => d.2.isClassic)
        s.machine.children.dead
      rw [parts] at head
      exact head
    have dead : ∀ d ∈ (pid, how) :: rest, s.stateOf d.1 = some (.dead d.2) := fun d member =>
      (mem_dead_iff distinct).1 ((List.dropWhile_sublist _).subset (parts ▸ member))
    have own : s.stateOf pid = some (.dead how) := dead (pid, how) List.mem_cons_self
    constructor
    · rw [parts, List.tail_cons] at left
      refine List.eq_nil_iff_forall_not_mem.2 fun d member => ?_
      have still : s.reap.1.stateOf d.1 = some (.dead d.2) :=
        (mem_dead_iff distinct').1 (left ▸ member)
      exact collected d.1 d.2 (dead d (List.mem_cons_of_mem _ member)) (mem_pids_iff.2 ⟨_, still⟩)
    · have there : pid ∈ s.pids := mem_pids_iff.2 ⟨_, own⟩
      have gone : pid ∉ s.reap.1.pids := collected pid how own
      obtain ⟨how', dead', jobs⟩ := (dealt pid).of_gone there gone
      cases own.symm.trans dead'
      exact fun tracked => untracked pid there gone (jobs.2 ⟨unknown, tracked⟩)
  · intro last
    have none_left : s.reap.1.machine.children.dead = [] := by
      rw [left]
      cases parts : s.machine.children.dead.dropWhile (·.2.isClassic) with
      | nil => rfl
      | cons first rest => exact (last first rest parts).1
    refine ⟨fun pid how dead member => ?_, fun pid member gone tracked => ?_⟩
    · have found := (mem_dead_iff distinct').2 ((dealt pid).dead_of_mem dead member)
      rw [none_left] at found
      cases found
    · obtain ⟨how, dead, jobs⟩ := (dealt pid).of_gone member gone
      obtain ⟨unknown, slot⟩ := jobs.1 tracked
      have late : (pid, how) ∈ s.machine.children.dead.dropWhile (·.2.isClassic) :=
        mem_dropWhile_of_not ((mem_dead_iff distinct).2 dead) (by simp [unknown])
      obtain ⟨first, rest, parts⟩ := List.exists_cons_of_ne_nil (List.ne_nil_of_mem late)
      obtain ⟨rfl, off⟩ := last first rest parts
      rw [parts, List.mem_singleton] at late
      subst late
      exact off slot

/-- A background child is made and announced, and comes to an end. -/
def bereave (s : Session) (how : Termination) : Session :=
  (((s.addChild (.shell .ignore) true).1.track s.newPid).say (.started s.newPid)).endChild
    s.newPid how

/-- A shell all of whose background children, one for each end, are dead. -/
def mourning (ends : List Termination) : Session :=
  ends.foldl bereave (new {} .standard (Machine.start FileTree.system ["home"] 1001 []))

/-- Ends that can be told, in any number, do not stop a pass. -/
theorem reap_clears_mourning :
    (mourning [.exited 3, .signaled 9]).pids.Nodup ∧
      (mourning [.exited 3, .signaled 9]).jobs.toList.Nodup ∧
      (mourning [.exited 3, .signaled 9]).stateOf 1002 = some (.dead (.signaled 9)) ∧
      Clears (mourning [.exited 3, .signaled 9]) (mourning [.exited 3, .signaled 9]).reap.1 := by
  have distinct : (mourning [.exited 3, .signaled 9]).pids.Nodup := by decide
  have table : (mourning [.exited 3, .signaled 9]).jobs.toList.Nodup := by decide
  refine ⟨distinct, table, by decide, (reap_clears_iff distinct table).2 fun first rest parts => ?_⟩
  have none_unknown : (mourning [.exited 3, .signaled 9]).machine.children.dead.dropWhile
      (·.2.isClassic) = [] := by decide
  rw [none_unknown] at parts
  cases parts

/-- An end that cannot be told stops a pass: the child after it is left, and its own slot is not
freed. -/
theorem not_clears_mourning :
    (mourning [.signaled 34, .exited 0]).pids = [1001, 1002] ∧
      (mourning [.signaled 34, .exited 0]).reap.1.pids = [1002] ∧
      (mourning [.signaled 34, .exited 0]).reap.1.jobs.toList = [1001, 1002] ∧
      ¬ Clears (mourning [.signaled 34, .exited 0])
        (mourning [.signaled 34, .exited 0]).reap.1 := by
  have left : (mourning [.signaled 34, .exited 0]).reap.1.pids = [1002] := by decide +kernel
  refine ⟨by decide, left, by decide +kernel, fun clears => ?_⟩
  have gone := clears.collected 1002 (.exited 0) (by decide)
  rw [left] at gone
  exact gone (by decide)

end Session

end JobShell
