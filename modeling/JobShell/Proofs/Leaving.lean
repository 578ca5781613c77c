import JobShell.Proofs.Admission
import Mathlib.Data.List.Infix
import Mathlib.Data.List.Perm.Subperm

/-!
# What is left when the shell has left

The shell ends the jobs in its table when it leaves. A child that found no slot is not among them,
and a slot stays taken until the reaper has reported its job.

* `leave_ends_every_child`: as long as no more background children than there are slots have been
  waiting to be collected at any time, alive or dead, no child is left.
* `leave_spares_a_child`: it is not enough that no more of them have been alive at any time.
-/

namespace JobShell

/-! ## Children at a time -/

/-- The background child that an entry says has been made. -/
def Entry.born? : Entry → Option Pid
  | .forked pid true => some pid
  | _ => none

/-- Whether an entry tells of the death of a child. -/
def Entry.isDeathOf (pid : Pid) : Entry → Bool
  | .died p _ => p == pid
  | _ => false

namespace Transcript

variable {t u : Transcript} {pid : Pid} {room : Nat}

/-- The background children that have been made and have not died. -/
def living (t : Transcript) : List Pid :=
  (t.filterMap Entry.born?).filter fun pid => !t.any (·.isDeathOf pid)

/-- The background children that have been made and have not been collected. -/
def uncollected (t : Transcript) : List Pid :=
  (t.filterMap Entry.born?).filter fun pid => .collected pid ∉ t

/-- At no time have more than `room` background children waited to be collected. -/
def Uncrowded (room : Nat) (t : Transcript) : Prop :=
  ∀ past ∈ t.inits, (uncollected past).length ≤ room

instance (room : Nat) (t : Transcript) : Decidable (t.Uncrowded room) :=
  inferInstanceAs (Decidable (∀ past ∈ t.inits, (uncollected past).length ≤ room))

/-- A background child that has been made and not collected is counted. -/
theorem mem_uncollected (forked : .forked pid true ∈ t) (there : .collected pid ∉ t) :
    pid ∈ t.uncollected := by
  refine List.mem_filter.2 ⟨List.mem_filterMap.2 ⟨_, forked, rfl⟩, ?_⟩
  simpa using there

/-- Up to any point there are no more children than over the whole transcript. -/
theorem Uncrowded.of_append (few : (t ++ u).Uncrowded room) : t.Uncrowded room :=
  fun past member => few past ((List.mem_inits _ _).2
    (((List.mem_inits _ _).1 member).trans (List.prefix_append t u)))

/-- At its end there is room for all that are there. -/
theorem Uncrowded.here (few : t.Uncrowded room) : t.uncollected.length ≤ room :=
  few t ((List.mem_inits _ _).2 (List.prefix_refl t))

theorem Extends.uncrowded {P : Entry → Prop} (h : Extends P t u) (few : u.Uncrowded room) :
    t.Uncrowded room := by
  obtain ⟨added, rfl, -⟩ := h
  exact few.of_append

end Transcript

/-- Whether a child is stopped. -/
def Child.isStopped (c : Child) : Bool :=
  match c.state with
  | .stopped _ => true
  | _ => false

namespace Session

variable {env : Environment} {s s' m start : Session} {room : Nat} {pid : Pid}
variable {how : Termination} {r : Session × Outcome} {code : Int}

/-! ## Every child has a slot -/

/-- Every child is in the job table. -/
def Housed (s : Session) : Prop :=
  ∀ pid ∈ s.pids, pid ∈ s.jobs.toList

/-- The job table holds nothing but children, unless one has died of a signal above the classic
ones. -/
theorem Orderly.tracked_mem_pids (orderly : s.Orderly) (accounted : s.Accounted room)
    (classic : s.machine.transcript.Classic) (tracked : pid ∈ s.jobs.toList) : pid ∈ s.pids := by
  have holds : pid ∈ s.machine.transcript.holders room := accounted.holds.mem_iff.1 tracked
  have found := (Transcript.mem_holders_iff fun _ _ => orderly.unreported_before).1 holds
  exact (orderly.mem_pids_of_started classic (orderly.announced pid tracked) found.2).1

/-- There is a free slot for a new child, which has not been collected either. -/
theorem Orderly.free_slot (orderly : s.Orderly) (accounted : s.Accounted room)
    (classic : s.machine.transcript.Classic)
    (few : (s.machine.transcript ++ [Entry.forked s.newPid true]).Uncrowded room) :
    s.jobs.toList.length < s.jobs.capacity := by
  have waiting : s.newPid :: s.pids ⊆
      Transcript.uncollected (s.machine.transcript ++ [.forked s.newPid true]) := by
    intro pid member
    rcases List.mem_cons.1 member with rfl | member
    · refine Transcript.mem_uncollected (by simp) ?_
      simpa using orderly.fresh.not_mem (e := .collected s.newPid) rfl
    · obtain ⟨state, there⟩ := mem_pids_iff.1 member
      obtain ⟨forked, -, uncollected, -⟩ := (there ▸ orderly.life pid).forked_of_state
      refine Transcript.mem_uncollected (List.mem_append_left _ (mem_historyOf.1 forked).1) ?_
      simpa using fun here => uncollected (mem_historyOf.2 ⟨here, rfl⟩)
  have distinct : (s.newPid :: s.pids).Nodup :=
    List.nodup_cons.2 ⟨orderly.fresh.absent, orderly.distinct⟩
  have counted : s.pids.length + 1 ≤ room :=
    ((List.subperm_of_subset distinct waiting).length_le).trans few.here
  have tracked : s.jobs.toList.length ≤ s.pids.length :=
    (List.subperm_of_subset orderly.table fun pid =>
      orderly.tracked_mem_pids accounted classic).length_le
  rw [accounted.capacity]
  omega

namespace Housed

/-- Events make no child, so none is without a slot. -/
theorem outside (housed : s.Housed) (h : Outside s s') : s'.Housed := by
  intro pid member
  rw [h.pids] at member
  rw [h.jobs]
  exact housed pid member

theorem awaited (housed : s.Housed) (h : Awaited s s') : s'.Housed := by
  intro pid member
  rw [h.pids] at member
  rw [h.jobs]
  exact housed pid member

/-- A background child that is announced takes a slot, if one is free. -/
theorem started (housed : s.Housed) (fresh : s.Fresh)
    (free : s.jobs.toList.length < s.jobs.capacity) (h : Started s s') : s'.Housed := by
  intro pid member
  rw [h.pids, List.mem_append, List.mem_singleton] at member
  rw [h.jobs, (JobTable.toList_track_perm fresh.untracked free).mem_iff, List.mem_cons]
  exact member.symm.imp_right (housed pid)

/-- A line leaves every child with a slot, if there is room for all of them. -/
theorem worked (housed : s.Housed) (worked : Worked s m) (orderly : s.Orderly)
    (accounted : s.Accounted room) (classic : m.machine.transcript.Classic)
    (few : m.machine.transcript.Uncrowded room) : m.Housed := by
  cases worked with
  | aside h => exact housed.outside h
  | @started a b m first started after =>
    have orderly' := orderly.outside first
    obtain ⟨added, -, transcript⟩ := started.transcript
    have grown : b.machine.transcript =
        (a.machine.transcript ++ [.forked a.newPid true]) ++
          (added ++ [.said (.started a.newPid)]) := by
      rw [transcript]
      simp
    have classic' := after.transcript.classic classic
    have few' := after.transcript.uncrowded few
    rw [grown] at classic' few'
    have free := orderly'.free_slot (accounted.outside first) classic'.of_append.of_append
      few'.of_append
    exact ((housed.outside first).started orderly'.fresh free started).outside after
  | awaited first awaited after => exact ((housed.outside first).awaited awaited).outside after

/-- The reaper frees no slot of a child that it leaves. -/
theorem reaped (housed : s.Housed) (table : s.jobs.toList.Nodup) (h : Reaped s r) :
    r.1.Housed := by
  induction h with
  | idle _ => exact housed
  | lost _ _ =>
    intro pid member
    rw [pids_collect] at member
    exact housed pid (List.mem_filter.1 member).1
  | @next s dead how r _ _ _ ih =>
    refine ih (fun pid member => ?_) (JobTable.nodup_toList_untrack table)
    rw [pids_dismiss, List.mem_filter] at member
    exact (JobTable.mem_toList_untrack table).2 ⟨by simpa using member.2, housed pid member.1⟩

theorem afterLine (housed : s.Housed) (table : s.jobs.toList.Nodup) : s.afterLine.Housed := by
  cases ended : s.flags.childEnded with
  | false =>
    rw [afterLine_of_calm ended]
    exact housed
  | true =>
    have calm : s.calm.Housed := housed
    exact (calm.reaped table (reaped_reap _)).outside (quiet_afterLine ended).outside

end Housed

/-- At every prompt every child has a slot, if there has always been room. -/
theorem Reaches.housed (reach : Reaches env start s) (orderly : start.Orderly)
    (accounted : start.Accounted room) (housed : start.Housed)
    (classic : s.machine.transcript.Classic) (few : s.machine.transcript.Uncrowded room) :
    s.Housed := by
  induction reach with
  | refl => exact housed
  | @supply s r _ ih =>
    have quiet := quiet_supply s r
    exact (ih (quiet.machine.transcript.classic classic)
      (quiet.machine.transcript.uncrowded few)).outside quiet.outside
  | round r earlier goes_on ih =>
    have before := earlier.orderly orderly
    obtain ⟨m, worked, result⟩ := worked_round before goes_on
    rw [result] at classic few ⊢
    have classic' := extends_afterLine.classic classic
    have few' := extends_afterLine.uncrowded few
    have house := ih (worked.working.classic classic') (worked.working.uncrowded few')
    exact (house.worked worked before (earlier.accounted orderly accounted) classic' few').afterLine
      (worked.orderly before).table

/-! ## Leaving -/

/-- A child that is not stopped dies of the signal to end. -/
theorem moves_of_not_isStopped (moving : ∀ c ∈ s.machine.children, c.isStopped = false) (pid : Pid)
    (pending : Option Signal) : s.stateOf pid ≠ some (.stopped pending) := by
  intro stopped
  obtain ⟨c, found, state⟩ := Option.map_eq_some_iff.1 stopped
  have still := moving c (List.mem_of_find?_eq_some found)
  rw [Child.isStopped, state] at still
  cases still

/-- If no job is stopped, every child is sent the signal, dies and is collected, and the shell
returns. -/
theorem Housed.leave (housed : s.Housed) (moving : ∀ c ∈ s.machine.children, c.isStopped = false)
    (code : Int) :
    (s.leave code).2 = .returned code ∧ (s.leave code).1.machine.children = [] ∧
      ∃ added, (s.leave code).1.machine.transcript = s.machine.transcript ++ added ∧
        ∀ pid ∈ s.pids, [.sent pid Signal.terminate, .collected pid].Sublist added := by
  obtain ⟨all, empty, added, grown, sent⟩ :=
    endJobs_collects s.jobs.toList s housed (moves_of_not_isStopped moving)
  have left : s.leave code = ((endJobs s.jobs.toList s).1, .returned code) := by
    unfold Session.leave shutdown
    generalize endJobs s.jobs.toList s = result at all
    obtain ⟨after, stuck⟩ := result
    cases all
    rfl
  rw [left]
  exact ⟨rfl, List.map_eq_nil_iff.1 empty, added, grown, sent⟩

/-- No child is left when the shell has left, if at no time more background children than there are
slots have waited to be collected, none dies of a signal above the classic ones, and none is stopped
at the end. Each has been sent the signal to terminate and has been collected. -/
theorem leave_ends_every_child {options : Options} {tree : FileTree} {cwd : Place} {nextPid : Pid}
    {input : Bytes}
    (reach : Reaches env (initial options tree cwd nextPid input) s) (leaves : Leaves env s m code)
    (classic : m.machine.transcript.Classic)
    (few : m.machine.transcript.Uncrowded options.maxJobs)
    (moving : ∀ c ∈ m.machine.children, c.isStopped = false) :
    (m.leave code).2 = .returned code ∧ (m.leave code).1.machine.children = [] ∧
      ∃ added, (m.leave code).1.machine.transcript = m.machine.transcript ++ added ∧
        ∀ pid ∈ m.pids, [.sent pid Signal.terminate, .collected pid].Sublist added := by
  have start := orderly_initial options tree cwd nextPid input
  have account := accounted_initial options tree cwd nextPid input
  have nobody : (initial options tree cwd nextPid input).Housed := by
    intro pid member
    cases member
  have orderly := reach.orderly start
  have worked := leaves.worked orderly
  have housed := reach.housed start account nobody (worked.working.classic classic)
    (worked.working.uncrowded few)
  exact (housed.worked worked orderly (reach.accounted start account) classic few).leave moving code

/-- With one slot, a job that starts once the one before it has been reported is ended. -/
theorem leave_ends_second_job :
    let last := (memoryShell 1).rounds memoryEnvironment
      [lineAfter "hold &" [], lineAfter "true" [.finish 1 3], lineAfter "hold &" []]
    let m := (last.step memoryEnvironment (lineAfter "exit 5" [])).1
    Reaches memoryEnvironment (memoryShell 1) last ∧ Leaves memoryEnvironment last m 5 ∧
      m.machine.transcript.Classic ∧ m.machine.transcript.Uncrowded 1 ∧
      (∀ c ∈ m.machine.children, c.isStopped = false) ∧ m.machine.children.alive = [1003] ∧
      (m.leave 5).2 = .returned 5 ∧ (m.leave 5).1.machine.children = [] := by
  intro last m
  have reach : Reaches memoryEnvironment (memoryShell 1) last :=
    reaches_rounds (by decide +kernel)
  have asked : (last.step memoryEnvironment (lineAfter "exit 5" [])).2 = .error (.exit 5) := by
    decide +kernel
  have leaves : Leaves memoryEnvironment last m 5 :=
    .step (lineAfter "exit 5" []) (Prod.ext rfl asked)
  have classic : m.machine.transcript.Classic := by decide +kernel
  have few : m.machine.transcript.Uncrowded 1 := by decide +kernel
  have moving : ∀ c ∈ m.machine.children, c.isStopped = false := by decide +kernel
  obtain ⟨returned, nobody, -⟩ := leave_ends_every_child reach leaves classic few moving
  exact ⟨reach, leaves, classic, few, moving, by decide +kernel, returned, nobody⟩

/-- With one slot, a job that starts when the one before it has died, but has not been reported, is
not in the table and survives the shell, though at most one job has been alive at any time. -/
theorem leave_spares_a_child :
    let last := (memoryShell 1).rounds memoryEnvironment
      [lineAfter "hold &" [], lineAfter "hold &" [.finish 1 3]]
    let final := (last.leave 0).1
    Reaches memoryEnvironment (memoryShell 1) last ∧ Leaves memoryEnvironment last last 0 ∧
      final.machine.transcript.Classic ∧
      (∀ past ∈ final.machine.transcript.inits, (Transcript.living past).length ≤ 1) ∧
      (∀ c ∈ last.machine.children, c.isStopped = false) ∧
      (last.leave 0).2 = .returned 0 ∧ final.machine.children.alive = [1002] := by
  intro last final
  refine ⟨reaches_rounds (by decide +kernel), .input, ?_, ?_, ?_, ?_, ?_⟩ <;> decide +kernel

end Session

end JobShell
