import JobShell.Proofs.Loop
import Mathlib.Data.List.Induction

/-!
# Who is in the job table

A background job takes a slot when it is announced, if one is free, and gives it back when it is
reported. `Transcript.holders` reads off a transcript which jobs hold one.

* `Reaches.accounted`: the job table holds what the transcript says.
* `table_at_prompt`: at every prompt it holds the jobs that found a slot and have not been reported,
  and each of them is a child that has not been collected.
-/

namespace JobShell

/-! ## Slots in a transcript -/

/-- The jobs that hold one of `room` slots after an entry, if `holders` do so before it. -/
def Entry.hold (room : Nat) (holders : List Pid) : Entry → List Pid
  | .said (.started pid) => if holders.length < room then holders ++ [pid] else holders
  | .said (.done pid _) => holders.filter (· != pid)
  | _ => holders

namespace Transcript

/-- The jobs that hold one of `room` slots, in the order of their announcements. -/
def holders (room : Nat) (t : Transcript) : List Pid :=
  t.foldl (fun holders e => e.hold room holders) []

/-- The job was announced when one of `room` slots was free. -/
def FoundSlot (room : Nat) (t : Transcript) (pid : Pid) : Prop :=
  ∃ before after : Transcript,
    t = before ++ .said (.started pid) :: after ∧ (before.holders room).length < room

variable {room : Nat} {t u : Transcript} {pid : Pid} {e : Entry}

theorem holders_append : (t ++ u).holders room =
    u.foldl (fun holders e => e.hold room holders) (t.holders room) :=
  List.foldl_append

/-- Who has a slot after one more entry. -/
theorem holders_concat : (t ++ [e]).holders room = e.hold room (t.holders room) :=
  holders_append

/-- Entries that say nothing of slots leave them as they are. -/
theorem holders_of_extends {P : Entry → Prop} (h : Extends P t u)
    (idle : ∀ e, P e → ∀ holders, e.hold room holders = holders) :
    u.holders room = t.holders room := by
  obtain ⟨added, rfl, all⟩ := h
  rw [holders_append]
  generalize t.holders room = holders
  induction added with
  | nil => rfl
  | cons e added ih =>
    rw [List.foldl_cons, idle e (all e List.mem_cons_self)]
    exact ih fun e member => all e (List.mem_cons_of_mem _ member)

/-- A job has found a slot if there was room when it was announced. -/
theorem foundSlot_concat : (t ++ [e]).FoundSlot room pid ↔
    t.FoundSlot room pid ∨ e = .said (.started pid) ∧ (t.holders room).length < room := by
  constructor
  · rintro ⟨before, after, parts, free⟩
    rcases List.eq_nil_or_concat after with rfl | ⟨rest, last, rfl⟩
    · obtain ⟨rfl, same⟩ := List.append_inj' parts rfl
      exact .inr ⟨List.singleton_inj.1 same, free⟩
    · rw [List.concat_eq_append, ← List.cons_append, ← List.append_assoc] at parts
      exact .inl ⟨before, rest, List.append_inj_left' parts rfl, free⟩
  · rintro (⟨before, after, rfl, free⟩ | ⟨rfl, free⟩)
    · exact ⟨before, after ++ [e], by simp, free⟩
    · exact ⟨t, [], rfl, free⟩

/-- A job that is not reported before its announcement holds a slot exactly if it has found one and
has not been reported. -/
theorem mem_holders_iff
    (ordered : ∀ before after : Transcript, t = before ++ .said (.started pid) :: after →
      before.reports pid = []) :
    pid ∈ t.holders room ↔ t.FoundSlot room pid ∧ t.reports pid = [] := by
  induction t using List.reverseRecOn with
  | nil => simp [holders, FoundSlot]
  | append_singleton t e ih =>
    have ih := ih fun before after parts =>
      ordered before (after ++ [e]) (by rw [parts, List.append_assoc, List.cons_append])
    rw [holders_concat, foundSlot_concat, reports_append]
    cases e with
    | said message =>
      cases message with
      | started p =>
        have silent : Transcript.reports [.said (.started p)] pid = [] := rfl
        rw [silent, List.append_nil, Entry.hold]
        by_cases same : p = pid
        · subst same
          have unreported : Transcript.reports t p = [] := ordered t [] rfl
          split <;> rename_i free
          · simp [unreported, free]
          · simp [ih, free]
        · have other : ¬ Entry.said (.started p) = .said (.started pid) := by simpa using same
          split
          · simp [ih, same, Ne.symm same]
          · simp [ih, same]
      | done p how =>
        rw [Entry.hold, List.mem_filter, ih]
        by_cases same : p = pid
        · simp [same, reports, Entry.report?]
        · simp [reports, Entry.report?, same, Ne.symm same]
      | _ => simpa [reports, Entry.report?, Entry.hold] using ih
    | _ => simpa [reports, Entry.report?, Entry.hold] using ih

end Transcript

/-! ## Slots in the table -/

namespace Session

variable {env : Environment} {s s' m start : Session} {room : Nat} {pid : Pid}
variable {how : Termination} {r : Session × Outcome}

/-- The job table has `room` slots and holds the jobs that the transcript says. -/
structure Accounted (room : Nat) (s : Session) : Prop where
  capacity : s.jobs.capacity = room
  holds : s.jobs.toList.Perm (s.machine.transcript.holders room)

theorem hold_of_isAside {e : Entry} (aside : e.isAside = true) (holders : List Pid) :
    e.hold room holders = holders := by
  cases e with
  | said message =>
    cases message with
    | started p => cases aside
    | done p how => cases aside
    | _ => rfl
  | _ => rfl

theorem hold_of_isAwaiting {q : Pid} {e : Entry} (h : IsAwaiting q e) (holders : List Pid) :
    e.hold room holders = holders := by
  rcases h with aside | rfl | rfl
  · exact hold_of_isAside aside holders
  · rfl
  · rfl

/-- Of all that a new background child adds to the transcript only its announcement counts. -/
theorem Started.holders (h : Started s s') : s'.machine.transcript.holders room =
    (Entry.said (.started s.newPid)).hold room (s.machine.transcript.holders room) := by
  obtain ⟨added, all, transcript⟩ := h.transcript
  have grown : s.machine.transcript.Extends
      (fun e => e.isAside = true ∨ e = .forked s.newPid true)
      (s.machine.transcript ++ .forked s.newPid true :: added) :=
    ⟨_, rfl, fun e member => (List.mem_cons.1 member).symm.imp_left (all e)⟩
  have idle : (s.machine.transcript ++ .forked s.newPid true :: added).holders room =
      s.machine.transcript.holders room := by
    refine Transcript.holders_of_extends grown fun e silent holders => ?_
    rcases silent with aside | rfl
    · exact hold_of_isAside aside holders
    · rfl
  rw [transcript, ← idle, ← Transcript.holders_concat, List.append_assoc]

namespace Accounted

theorem outside (accounted : s.Accounted room) (h : Outside s s') : s'.Accounted room where
  capacity := h.jobs ▸ accounted.capacity
  holds := by
    rw [h.jobs, Transcript.holders_of_extends h.transcript fun _ => hold_of_isAside]
    exact accounted.holds

theorem awaited (accounted : s.Accounted room) (h : Awaited s s') : s'.Accounted room where
  capacity := h.jobs ▸ accounted.capacity
  holds := by
    rw [h.jobs, Transcript.holders_of_extends h.transcript fun _ => hold_of_isAwaiting]
    exact accounted.holds

/-- A background child takes a slot if there is one. -/
theorem started (accounted : s.Accounted room) (fresh : s.Fresh) (h : Started s s') :
    s'.Accounted room := by
  have same : s.jobs.toList.length = (s.machine.transcript.holders room).length :=
    accounted.holds.length_eq
  refine ⟨?_, ?_⟩
  · rw [h.jobs, JobTable.capacity_track]
    exact accounted.capacity
  · rw [h.jobs, h.holders, Entry.hold]
    split <;> rename_i free
    · rw [← same, ← accounted.capacity] at free
      refine (JobTable.toList_track_perm fresh.untracked free).trans ?_
      exact (accounted.holds.cons _).trans (List.perm_append_singleton _ _).symm
    · rw [← same, ← accounted.capacity, Nat.not_lt] at free
      rw [JobTable.track_of_full free]
      exact accounted.holds

/-- A line leaves the table as the transcript tells. -/
theorem worked (accounted : s.Accounted room) (worked : Worked s m) (orderly : s.Orderly) :
    m.Accounted room := by
  cases worked with
  | aside h => exact accounted.outside h
  | started first started after =>
    exact ((accounted.outside first).started (orderly.outside first).fresh started).outside after
  | awaited first awaited after => exact ((accounted.outside first).awaited awaited).outside after

/-- A child that is reported gives its slot back. -/
theorem dismiss (accounted : s.Accounted room) (table : s.jobs.toList.Nodup) (pid : Pid)
    (how : Termination) : (s.dismiss pid how).Accounted room := by
  have freed : (s.dismiss pid how).machine.transcript.holders room =
      (s.machine.transcript.holders room).filter (· != pid) := by
    rw [transcript_dismiss, Transcript.holders_append]
    rfl
  have distinct : (s.machine.transcript.holders room).Nodup := accounted.holds.nodup_iff.1 table
  refine ⟨?_, ?_⟩
  · show (s.jobs.untrack pid).capacity = room
    rw [JobTable.capacity_untrack]
    exact accounted.capacity
  · show (s.jobs.untrack pid).toList.Perm _
    rw [freed, JobTable.toList_untrack, ← distinct.erase_eq_filter]
    exact accounted.holds.erase pid

theorem collect (accounted : s.Accounted room) (pid : Pid) : (s.collect pid).Accounted room where
  capacity := accounted.capacity
  holds := by
    have idle : (s.collect pid).machine.transcript.holders room =
        s.machine.transcript.holders room := Transcript.holders_concat
    rw [idle]
    exact accounted.holds

/-- A drain leaves the table as the transcript tells. -/
theorem reaped (accounted : s.Accounted room) (table : s.jobs.toList.Nodup) (h : Reaped s r) :
    r.1.Accounted room := by
  induction h with
  | idle _ => exact accounted
  | lost _ _ => exact accounted.collect _
  | next _ _ _ ih =>
    exact ih (accounted.dismiss table _ _) (JobTable.nodup_toList_untrack table)

theorem afterLine (accounted : s.Accounted room) (table : s.jobs.toList.Nodup) :
    s.afterLine.Accounted room := by
  cases ended : s.flags.childEnded with
  | false =>
    rw [afterLine_of_calm ended]
    exact accounted
  | true =>
    have calm : s.calm.Accounted room := ⟨accounted.capacity, accounted.holds⟩
    exact (calm.reaped table (reaped_reap _)).outside (quiet_afterLine ended).outside

end Accounted

/-- The table holds at every prompt what the transcript tells. -/
theorem Reaches.accounted (reach : Reaches env start s) (orderly : start.Orderly)
    (accounted : start.Accounted room) : s.Accounted room := by
  induction reach with
  | refl => exact accounted
  | supply r _ ih => exact ih.outside (quiet_supply _ r).outside
  | round r earlier goes_on ih =>
    have before := earlier.orderly orderly
    obtain ⟨m, worked, result⟩ := worked_round before goes_on
    rw [result]
    exact (ih.worked worked before).afterLine (worked.orderly before).table

theorem accounted_initial (options : Options) (tree : FileTree) (cwd : Place) (nextPid : Pid)
    (input : Bytes) :
    (initial options tree cwd nextPid input).Accounted options.maxJobs where
  capacity := JobTable.capacity_empty _
  holds := by
    show (JobTable.empty options.maxJobs).toList.Perm []
    rw [JobTable.toList_empty]

/-! ## At a prompt -/

/-- A job that has been announced and not reported is still there. -/
theorem Orderly.mem_pids_of_started (orderly : s.Orderly) (classic : s.machine.transcript.Classic)
    (started : .said (.started pid) ∈ s.machine.transcript)
    (unreported : s.machine.transcript.reports pid = []) :
    pid ∈ s.pids ∧ .forked pid true ∈ s.machine.transcript ∧
      .forked pid false ∉ s.machine.transcript ∧ .collected pid ∉ s.machine.transcript := by
  have life := orderly.life pid
  obtain ⟨state, there⟩ := life.of_started (mem_historyOf.2 ⟨started, rfl⟩)
    (by rw [historyOf, Transcript.reports_history, unreported])
    fun how died => classic.isClassic (mem_historyOf.1 died).1
  rw [there] at life
  obtain ⟨forked, -, uncollected, -⟩ := life.forked_of_state
  refine ⟨mem_pids_iff.2 ⟨state, there⟩, (mem_historyOf.1 forked).1, fun member => ?_,
    fun member => uncollected (mem_historyOf.2 ⟨member, rfl⟩)⟩
  exact life.not_foreground forked (mem_historyOf.2 ⟨member, rfl⟩)

/-- Unless a child dies of a signal above the classic ones, the job table holds at every prompt,
once each, the background children that found a free slot when they were announced and have not been
reported. They have not been collected, and none is a foreground child. -/
theorem table_at_prompt {options : Options} {tree : FileTree} {cwd : Place} {nextPid : Pid}
    {input : Bytes} {p : Session}
    (prompt : AtPrompt env (initial options tree cwd nextPid input) p)
    (classic : p.machine.transcript.Classic) :
    p.jobs.toList.Nodup ∧ p.jobs.toList.length ≤ options.maxJobs ∧
      (∀ pid, pid ∈ p.jobs.toList ↔
        p.machine.transcript.FoundSlot options.maxJobs pid ∧
          p.machine.transcript.reports pid = []) ∧
      ∀ pid ∈ p.jobs.toList, pid ∈ p.pids ∧ .forked pid true ∈ p.machine.transcript ∧
        .forked pid false ∉ p.machine.transcript ∧ .collected pid ∉ p.machine.transcript := by
  obtain ⟨s, waits, reach, rfl⟩ := prompt
  have start := orderly_initial options tree cwd nextPid input
  have waited := outside_prompted waits s
  have orderly := (reach.orderly start).outside waited
  have accounted := (reach.accounted start
    (accounted_initial options tree cwd nextPid input)).outside waited
  have members : ∀ pid, pid ∈ (s.prompted waits).jobs.toList ↔
      (s.prompted waits).machine.transcript.FoundSlot options.maxJobs pid ∧
        (s.prompted waits).machine.transcript.reports pid = [] := by
    intro pid
    rw [accounted.holds.mem_iff]
    exact Transcript.mem_holders_iff fun before after => orderly.unreported_before
  refine ⟨orderly.table, ?_, members, fun pid member => ?_⟩
  · rw [← accounted.capacity]
    exact JobTable.length_toList_le_capacity
  · exact orderly.mem_pids_of_started classic (orderly.announced pid member)
      ((members pid).1 member).2

/-- With one slot, a second job is turned away while the first is there, alive or dead. -/
theorem table_at_prompt_of_two_jobs :
    let p := ((memoryShell 1).rounds memoryEnvironment
      [lineAfter "hold &" [], lineAfter "hold &" []]).prompted [[.kill 1 9]]
    AtPrompt memoryEnvironment (memoryShell 1) p ∧ p.machine.transcript.Classic ∧
      p.jobs.toList = [1001] ∧ 1001 ∈ p.pids ∧ p.machine.transcript.FoundSlot 1 1001 ∧
      1002 ∈ p.pids ∧ ¬ p.machine.transcript.FoundSlot 1 1002 := by
  intro p
  have prompt : AtPrompt memoryEnvironment (memoryShell 1) p :=
    ⟨_, [[.kill 1 9]], reaches_rounds (by decide +kernel), rfl⟩
  have classic : p.machine.transcript.Classic := by decide +kernel
  have table : p.jobs.toList = [1001] := by decide +kernel
  have unreported : p.machine.transcript.reports 1002 = [] := by decide +kernel
  obtain ⟨-, -, members, children⟩ := table_at_prompt prompt classic
  have tracked : 1001 ∈ p.jobs.toList := table ▸ List.mem_singleton_self 1001
  refine ⟨prompt, classic, table, (children 1001 tracked).1, ((members 1001).1 tracked).1,
    by decide +kernel, fun found => ?_⟩
  have second := (members 1002).2 ⟨found, unreported⟩
  rw [table] at second
  exact absurd second (by decide)

end Session

end JobShell
