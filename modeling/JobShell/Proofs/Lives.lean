import JobShell.Proofs.Reaper

/-!
# The lives of the children

Between two rounds of the loop every process id has a `Life`: what the transcript tells of it and
the state of the child that has it fit together. `Orderly` says so of a session, with what the job
table has to do with it. Each part of a round keeps a session orderly.

* `Orderly.outside`, `Orderly.started`, `Orderly.awaited`, `Orderly.afterLine`: events, a line that
  makes a child, and the pass of the reaper after it.
* `Alert.swept`: if the shell has been told of every death, the pass after a line leaves no dead
  child behind, unless a child has died of a signal above the classic ones.
-/

namespace JobShell

/-! ## One child -/

section Child

variable {pid q : Pid} {how : Termination} {h h' : Transcript} {a b : Option ChildState}

theorem Fallen.died_mem (fallen : Fallen pid how h) : .died pid how ∈ h := by
  cases fallen <;> simp

/-- A child that has fallen has been announced. -/
theorem Fallen.started_mem (fallen : Fallen pid how h) : .said (.started pid) ∈ h := by
  cases fallen <;> simp

theorem Fallen.forked_mem (fallen : Fallen pid how h) : .forked pid true ∈ h := by
  cases fallen <;> simp

theorem Fallen.eq_of_died {other : Termination} (fallen : Fallen pid how h)
    (died : .died q other ∈ h) : other = how := by
  cases fallen <;> simp at died <;> exact died.2

/-- A child that has fallen has been neither collected nor reported. -/
theorem Fallen.not_mem_of_isReaping (fallen : Fallen pid how h) {e : Entry}
    (reaping : e.isReaping = true) : e ∉ h := by
  intro member
  cases fallen <;> simp at member <;> rcases member with rfl | rfl | rfl <;> cases reaping

theorem Fallen.not_foreground (fallen : Fallen pid how h) : .forked q false ∉ h := by
  cases fallen <;> simp

theorem Fallen.reports (fallen : Fallen pid how h) : h.reports q = [] :=
  List.eq_nil_iff_forall_not_mem.2 fun _ member =>
    fallen.not_mem_of_isReaping rfl (Transcript.mem_reports.1 member)

theorem Fate.of_none (fate : Fate pid h none h' b) : h' = h ∧ b = none := by
  cases fate
  exact ⟨rfl, rfl⟩

namespace Life

/-- A life goes on as a life, whatever becomes of the child short of its being collected. -/
theorem of_fate (life : Life pid h a) (fate : Fate pid h a h' b) : Life pid h' b := by
  cases fate with
  | same => exact life
  | altered before after =>
    cases life with
    | working _ => exact .working after
    | fallen _ => exact absurd rfl (before _)
  | died before =>
    cases life with
    | working _ => exact .fallen .late
    | fallen _ => exact absurd rfl (before _)

/-- A process id that nothing has been told of belongs to no child. -/
theorem eq_none_of_nil (life : Life pid h a) (empty : h = []) : a = none := by
  cases life with
  | working _ => cases empty
  | fallen fallen => exact absurd fallen.died_mem (empty ▸ List.not_mem_nil)
  | _ => rfl

/-- A child that is dead and still there has fallen: its death is the last that is told of it. -/
theorem fallen_of_dead (life : Life pid h (some (.dead how))) : Fallen pid how h := by
  cases life with
  | working alive => exact absurd rfl (alive how)
  | fallen fallen => exact fallen

/-- A child that is still there has been made, announced, and not collected. -/
theorem forked_of_state {state : ChildState} (life : Life pid h (some state)) :
    .forked pid true ∈ h ∧ .said (.started pid) ∈ h ∧ .collected pid ∉ h ∧
      h.reports pid = [] := by
  cases life with
  | working _ => simp [Transcript.reports, Entry.report?]
  | fallen fallen =>
    exact ⟨fallen.forked_mem, fallen.started_mem, fallen.not_mem_of_isReaping rfl, fallen.reports⟩

/-- A background child that has died has been made in the background. -/
theorem forked_of_died (life : Life pid h a) (died : .died pid how ∈ h)
    (background : .forked pid false ∉ h) : .forked pid true ∈ h := by
  cases life with
  | unborn => cases died
  | awaited how => simp at background
  | working _ => simp
  | fallen fallen => exact fallen.forked_mem
  | lost fallen _ => exact List.mem_append_left _ fallen.forked_mem
  | reported fallen _ => exact List.mem_append_left _ fallen.forked_mem

/-- No child is both a background and a foreground child. -/
theorem not_foreground (life : Life pid h a) (forked : .forked pid true ∈ h) :
    .forked pid false ∉ h := by
  cases life with
  | unborn => cases forked
  | awaited how => simp at forked
  | working _ => simp
  | fallen fallen => exact fallen.not_foreground
  | lost fallen _ => simpa using fallen.not_foreground
  | reported fallen _ => simpa using fallen.not_foreground

/-- A report comes with the end of a background child, and there is one only. -/
theorem of_reported (life : Life pid h a) (done : .said (.done q how) ∈ h) :
    a = none ∧ .forked pid true ∈ h ∧ .died pid how ∈ h ∧ h.reports pid = [how] := by
  cases life with
  | unborn => cases done
  | awaited how => simp at done
  | working _ => simp at done
  | fallen fallen => exact absurd done (fallen.not_mem_of_isReaping rfl)
  | lost fallen unknown =>
    simp only [List.mem_append, List.mem_singleton, reduceCtorEq, or_false] at done
    exact absurd done (fallen.not_mem_of_isReaping rfl)
  | @reported how' h fallen known =>
    have last : .said (.done q how) = (.said (.done pid how') : Entry) := by
      rcases List.mem_append.1 done with early | late
      · exact absurd early (fallen.not_mem_of_isReaping rfl)
      · simpa using late
    cases last
    refine ⟨rfl, List.mem_append_left _ fallen.forked_mem, List.mem_append_left _ fallen.died_mem,
      ?_⟩
    rw [Transcript.reports_append, fallen.reports]
    simp [Transcript.reports, Entry.report?, List.filterMap_cons]

theorem reports_of_foreground (life : Life pid h a) (forked : .forked pid false ∈ h) :
    h.reports pid = [] := by
  refine List.eq_nil_iff_forall_not_mem.2 fun how member => ?_
  cases life with
  | unborn => cases forked
  | awaited how => simp [Transcript.reports, Entry.report?] at member
  | working _ => simp at forked
  | fallen fallen => exact fallen.not_foreground forked
  | lost fallen unknown =>
    simp only [List.mem_append, List.mem_singleton, reduceCtorEq, or_false] at forked
    exact fallen.not_foreground forked
  | reported fallen known =>
    simp only [List.mem_append, List.mem_cons, List.not_mem_nil, reduceCtorEq, or_false] at forked
    exact fallen.not_foreground forked

/-- A background child that has been announced and not reported is still there, if its end can be
told. -/
theorem of_started (life : Life pid h a) (started : .said (.started pid) ∈ h)
    (unreported : h.reports pid = []) (known : ∀ how, .died pid how ∈ h → how.isClassic = true) :
    ∃ state, a = some state := by
  cases life with
  | unborn => cases started
  | awaited how => simp at started
  | working _ => exact ⟨_, rfl⟩
  | fallen _ => exact ⟨_, rfl⟩
  | lost fallen unknown =>
    rw [known _ (List.mem_append_left _ fallen.died_mem)] at unknown
    cases unknown
  | @reported how h fallen _ =>
    have member : how ∈ Transcript.reports (h ++ [.collected pid, .said (.done pid how)]) pid :=
      Transcript.mem_reports.2 (by simp)
    rw [unreported] at member
    cases member

/-- The report comes after the announcement. -/
theorem unreported_before (life : Life pid h a) {before after : Transcript}
    (announced : h = before ++ .said (.started pid) :: after) : before.reports pid = [] := by
  have last : h.reports pid = [] ∨ ∃ h₀ how,
      h = h₀ ++ [.said (.done pid how)] ∧ Transcript.reports h₀ pid = [] := by
    cases life with
    | unborn => exact .inl rfl
    | awaited how => exact .inl rfl
    | working _ => exact .inl rfl
    | fallen fallen => exact .inl fallen.reports
    | lost fallen _ =>
      rw [Transcript.reports_append, fallen.reports]
      exact .inl rfl
    | @reported how h fallen _ =>
      refine .inr ⟨h ++ [.collected pid], how, by simp, ?_⟩
      rw [Transcript.reports_append, fallen.reports]
      rfl
  rcases last with none_there | ⟨h₀, how, whole, none_there⟩
  · rw [announced, Transcript.reports_append] at none_there
    exact (List.append_eq_nil_iff.1 none_there).1
  · rcases List.eq_nil_or_concat after with rfl | ⟨rest, e, rfl⟩
    · have same := List.append_inj_right' (announced.symm.trans whole) rfl
      cases same
    · rw [List.concat_eq_append, ← List.cons_append, ← List.append_assoc] at announced
      rw [List.append_inj_left' (whole.symm.trans announced) rfl,
        Transcript.reports_append] at none_there
      exact (List.append_eq_nil_iff.1 none_there).1

/-- A background child that has died, and whose end can be told, is dead or has been reported. -/
theorem of_died (life : Life pid h a) (forked : .forked pid true ∈ h) (died : .died pid how ∈ h)
    (known : how.isClassic = true) :
    a = some (.dead how) ∨ .said (.done pid how) ∈ h := by
  cases life with
  | unborn => cases died
  | awaited how => simp at forked
  | working _ => simp at died
  | fallen fallen => exact .inl (by rw [fallen.eq_of_died died])
  | lost fallen unknown =>
    simp only [List.mem_append, List.mem_singleton, reduceCtorEq, or_false] at died
    rw [← fallen.eq_of_died died, known] at unknown
    cases unknown
  | reported fallen _ =>
    simp only [List.mem_append, List.mem_cons, List.not_mem_nil, reduceCtorEq, or_false] at died
    rw [fallen.eq_of_died died]
    exact .inr (by simp)

end Life

end Child

/-! ## All of them -/

namespace Session

variable {s s' : Session} {pid q : Pid} {how : Termination} {r : Session × Outcome}

/-- The children of a session and its transcript fit together, and the job table holds background
jobs. -/
structure Orderly (s : Session) : Prop where
  distinct : s.pids.Nodup
  life : ∀ pid, Life pid (s.historyOf pid) (s.stateOf pid)
  unborn : ∀ pid, s.newPid ≤ pid → s.historyOf pid = []
  table : s.jobs.toList.Nodup
  announced : ∀ pid ∈ s.jobs.toList, .said (.started pid) ∈ s.machine.transcript

namespace Orderly

/-- No child has a process id that is still to be given. -/
theorem stateOf_unborn (orderly : s.Orderly) (later : s.newPid ≤ pid) : s.stateOf pid = none :=
  (orderly.life pid).eq_none_of_nil (orderly.unborn pid later)

/-- The next process id is new to the transcript and to the children. -/
theorem fresh (orderly : s.Orderly) : s.Fresh where
  history := orderly.unborn _ (Int.le_refl _)
  absent := stateOf_eq_none_iff.1 (orderly.stateOf_unborn (Int.le_refl _))
  untracked member := by
    have here := mem_historyOf.2 ⟨orderly.announced _ member, rfl⟩
    rw [orderly.unborn _ (Int.le_refl _)] at here
    cases here

/-- Nothing has been reported of a child before it is announced. -/
theorem unreported_before (orderly : s.Orderly) {before after : Transcript}
    (announced : s.machine.transcript = before ++ .said (.started pid) :: after) :
    before.reports pid = [] := by
  have parts : s.historyOf pid =
      before.history pid ++ .said (.started pid) :: after.history pid := by
    rw [historyOf, announced, Transcript.history_append]
    simp [Transcript.history, Entry.child?]
  rw [← Transcript.reports_history]
  exact (orderly.life pid).unreported_before parts

/-- Events from outside keep a session orderly. -/
theorem outside (orderly : s.Orderly) (h : Outside s s') : s'.Orderly where
  distinct := h.pids ▸ orderly.distinct
  life pid := (orderly.life pid).of_fate (h.fate pid)
  unborn pid later := by
    rw [newPid, h.nextPid] at later
    have fate := h.fate pid
    rw [orderly.stateOf_unborn later] at fate
    rw [fate.of_none.1, orderly.unborn pid later]
  table := h.jobs ▸ orderly.table
  announced pid member := h.transcript.subset (orderly.announced pid (h.jobs ▸ member))

/-! ### A line -/

/-- The lives of all children after one has been made. -/
theorem life_launched (orderly : s.Orderly) (h : Launched s s') (pid : Pid) :
    Life pid (s'.historyOf pid) (s'.stateOf pid) := by
  by_cases same : pid = s.newPid
  · exact same ▸ h.life
  · exact (orderly.life pid).of_fate (h.fate pid same)

/-- The process ids to be given after that are still unheard of. -/
theorem unborn_launched (orderly : s.Orderly) (h : Launched s s') (pid : Pid)
    (later : s'.newPid ≤ pid) : s'.historyOf pid = [] := by
  rw [h.nextPid] at later
  have past : s.newPid < pid := later
  have before : s.newPid ≤ pid := Int.le_of_lt past
  have fate := h.fate pid (Int.ne_of_gt past)
  rw [orderly.stateOf_unborn before] at fate
  rw [fate.of_none.1, orderly.unborn pid before]

/-- A command that makes a child keeps a session orderly. -/
theorem started (orderly : s.Orderly) (h : Started s s') : s'.Orderly where
  distinct := by
    rw [h.pids]
    exact List.nodup_append_comm.1 (List.nodup_cons.2 ⟨orderly.fresh.absent, orderly.distinct⟩)
  life := orderly.life_launched h.toLaunched
  unborn := orderly.unborn_launched h.toLaunched
  table := by
    rw [h.jobs]
    exact JobTable.nodup_toList_track orderly.table
  announced pid member := by
    obtain ⟨added, -, transcript⟩ := h.transcript
    rw [h.jobs] at member
    rw [transcript]
    rcases JobTable.mem_toList_of_mem_track member with rfl | earlier
    · simp
    · exact List.mem_append_left _ (orderly.announced pid earlier)

theorem awaited (orderly : s.Orderly) (h : Awaited s s') : s'.Orderly where
  distinct := h.pids ▸ orderly.distinct
  life := orderly.life_launched h.toLaunched
  unborn := orderly.unborn_launched h.toLaunched
  table := h.jobs ▸ orderly.table
  announced pid member := h.transcript.subset (orderly.announced pid (h.jobs ▸ member))

/-! ### The reaper -/

/-- To collect a dead child, whatever is told of it then, keeps a session orderly if that makes up
a life. -/
theorem removed {told : Transcript} (orderly : s.Orderly)
    (dead : s.stateOf pid = some (.dead how)) (nextPid : s'.newPid = s.newPid)
    (pids : s'.pids = s.pids.filter (· != pid))
    (states : ∀ q, s'.stateOf q = if q = pid then none else s.stateOf q)
    (transcript : s'.machine.transcript = s.machine.transcript ++ told)
    (own : ∀ e ∈ told, e.child? = some pid) (life : Life pid (s.historyOf pid ++ told) none)
    (table : s'.jobs.toList.Nodup) (fewer : ∀ q ∈ s'.jobs.toList, q ∈ s.jobs.toList) :
    s'.Orderly := by
  have others : ∀ q, q ≠ pid → s'.historyOf q = s.historyOf q := by
    intro q other
    have none_told : told.history q = [] := List.filter_eq_nil_iff.2 fun e member => by
      simpa [own e member] using other.symm
    rw [historyOf, transcript, Transcript.history_append, none_told, List.append_nil, historyOf]
  refine ⟨pids ▸ orderly.distinct.filter _, fun q => ?_, fun q later => ?_, table,
    fun q member => ?_⟩
  · by_cases same : q = pid
    · subst same
      have whole : told.history q = told := List.filter_eq_self.2 fun e member => by
        simp [own e member]
      rw [states, if_pos rfl, historyOf, transcript, Transcript.history_append, whole]
      exact life
    · rw [states, if_neg same, others q same]
      exact orderly.life q
  · rw [nextPid] at later
    have other : q ≠ pid := by
      rintro rfl
      rw [orderly.stateOf_unborn later] at dead
      cases dead
    rw [others q other]
    exact orderly.unborn q later
  · rw [transcript]
    exact List.mem_append_left _ (orderly.announced q (fewer q member))

/-- To collect, report and untrack a child of a known death keeps a session orderly. -/
theorem dismiss (orderly : s.Orderly) (dead : s.stateOf pid = some (.dead how))
    (known : how.isClassic = true) : (s.dismiss pid how).Orderly := by
  have fallen : Fallen pid how (s.historyOf pid) := (dead ▸ orderly.life pid).fallen_of_dead
  refine orderly.removed dead rfl (pids_dismiss s pid how) (stateOf_dismiss s pid how)
    (transcript_dismiss s pid how) ?_ (.reported fallen known)
    (JobTable.nodup_toList_untrack orderly.table) fun q member => ?_
  · simp [Entry.child?]
  · exact ((JobTable.mem_toList_untrack orderly.table).1 member).2

/-- To collect a child of an unknown death, and tell nothing of it, keeps a session orderly. -/
theorem collect (orderly : s.Orderly) (dead : s.stateOf pid = some (.dead how))
    (unknown : how.isClassic = false) : (s.collect pid).Orderly := by
  have fallen : Fallen pid how (s.historyOf pid) := (dead ▸ orderly.life pid).fallen_of_dead
  have told : (s.collect pid).machine.transcript = s.machine.transcript ++ [.collected pid] := rfl
  refine orderly.removed dead rfl (pids_collect s pid) (stateOf_collect s pid) told ?_
    (.lost fallen unknown) orderly.table fun q => id
  simp [Entry.child?]

/-- A whole drain keeps a session orderly, cut short or not. -/
theorem reaped (orderly : s.Orderly) (h : Reaped s r) : r.1.Orderly := by
  induction h with
  | idle _ => exact orderly
  | lost ready unknown => exact orderly.collect (stateOf_of_ready orderly.distinct ready) unknown
  | next ready known _ ih =>
    exact ih (orderly.dismiss (stateOf_of_ready orderly.distinct ready) known)

end Orderly

/-- Unless a child dies of a signal above the classic ones, no pass is cut short. -/
theorem Reaped.ok_of_classic (h : Reaped s r) (orderly : s.Orderly)
    (classic : r.1.machine.transcript.Classic) : r.2 = .ok := by
  induction h with
  | idle _ => rfl
  | @lost s pid how ready unknown =>
    have dead := stateOf_of_ready orderly.distinct ready
    have fallen : Fallen pid how (s.historyOf pid) := (dead ▸ orderly.life pid).fallen_of_dead
    have died := (mem_historyOf.1 fallen.died_mem).1
    rw [classic.of_append.isClassic died] at unknown
    cases unknown
  | next ready known _ ih =>
    exact ih (orderly.dismiss (stateOf_of_ready orderly.distinct ready) known) classic

/-! ## The pass after a line -/

theorem Orderly.calm (orderly : s.Orderly) : s.calm.Orderly :=
  ⟨orderly.distinct, orderly.life, orderly.unborn, orderly.table, orderly.announced⟩

theorem afterLine_of_calm (quiet : s.flags.childEnded = false) : s.afterLine = s := by
  rw [afterLine_eq_reap, SignalFlags.takeChildEnded, quiet]

/-- A pass with a reason is the drain, with its error reported. -/
theorem afterLine_eq (ended : s.flags.childEnded = true) :
    s.afterLine = match s.calm.reap with
      | (s, .error e) => s.report e
      | (s, _) => s := by
  rw [afterLine_eq_reap, SignalFlags.takeChildEnded, ended]
  rfl

/-- If nothing goes wrong, it is the drain. -/
theorem afterLine_of_ok (ended : s.flags.childEnded = true) (ok : s.calm.reap.2 = .ok) :
    s.afterLine = s.calm.reap.1 := by
  rw [afterLine_eq ended]
  generalize s.calm.reap = result at ok
  obtain ⟨after, outcome⟩ := result
  cases ok
  rfl

theorem quiet_afterLine (ended : s.flags.childEnded = true) :
    Quiet s.calm.reap.1 s.afterLine := by
  rw [afterLine_eq ended]
  split <;> rename_i result <;> rw [result]
  · exact quiet_report _ _
  · exact .refl _

/-- A pass adds to the transcript what the reaper tells, and what is about no child. -/
theorem extends_afterLine : s.machine.transcript.Extends
    (fun e => e.isReaping = true ∨ e.child? = none) s.afterLine.machine.transcript := by
  cases ended : s.flags.childEnded with
  | false =>
    rw [afterLine_of_calm ended]
    exact .refl _ _
  | true =>
    have pass : s.machine.transcript.Extends (·.isReaping = true)
        s.calm.reap.1.machine.transcript := (reaped_reap s.calm).extends
    refine (pass.mono fun _ => .inl).trans ?_
    exact (quiet_afterLine ended).machine.transcript.mono fun _ => .inr

/-- The pass after a line keeps a session orderly. -/
theorem Orderly.afterLine (orderly : s.Orderly) : s.afterLine.Orderly := by
  cases ended : s.flags.childEnded with
  | false =>
    rw [afterLine_of_calm ended]
    exact orderly
  | true => exact (orderly.calm.reaped (reaped_reap _)).outside (quiet_afterLine ended).outside

/-- Unless a child has died of a signal above the classic ones, there is no dead child. -/
def Swept (s : Session) : Prop :=
  s.machine.transcript.Classic → ∀ pid how, s.stateOf pid ≠ some (.dead how)

/-- Unless a child has died of a signal above the classic ones, the shell has been told if there is
a dead child. -/
def Alert (s : Session) : Prop :=
  s.machine.transcript.Classic → ∀ pid how, s.stateOf pid = some (.dead how) →
    s.flags.childEnded = true

theorem Swept.alert (swept : s.Swept) : s.Alert :=
  fun classic pid how dead => absurd dead (swept classic pid how)

/-- Events from outside leave no death unnoticed. -/
theorem Alert.outside (alert : s.Alert) (h : Outside s s') : s'.Alert := by
  intro classic pid how dead
  rcases h.told pid how dead with earlier | told
  · exact h.childEnded (alert (h.transcript.classic classic) pid how earlier)
  · exact told

theorem Alert.launched (alert : s.Alert) (h : Launched s s')
    (grown : s'.machine.transcript.Classic → s.machine.transcript.Classic) : s'.Alert := by
  intro classic pid how dead
  rcases h.told pid how dead with earlier | told
  · exact h.childEnded (alert (grown classic) pid how earlier)
  · exact told

/-- A pass that has been asked for leaves no dead child behind: the flag is up whenever there is
one. -/
theorem Alert.swept (alert : s.Alert) (orderly : s.Orderly) : s.afterLine.Swept := by
  intro classic pid how dead
  cases ended : s.flags.childEnded with
  | false =>
    rw [afterLine_of_calm ended] at classic dead
    rw [alert classic pid how dead] at ended
    cases ended
  | true =>
    have quiet := quiet_afterLine ended
    have pass := reaped_reap s.calm
    have ok := pass.ok_of_classic orderly.calm (quiet.machine.transcript.classic classic)
    rw [quiet.stateOf] at dead
    have found := (mem_dead_iff (orderly.calm.reaped pass).distinct).2 dead
    rw [pass.dead_of_ok ok] at found
    cases found

end Session

end JobShell
