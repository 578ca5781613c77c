import JobShell.Proofs.Lives

/-!
# Ending the jobs

To end a job is to send it the signal to terminate and to wait for it. No program of a child handles
that signal, so only a stopped job is not dead at once.

* `extends_leave`: what leaving adds to the transcript.
* `endJobs_collects`: a list of jobs that names every child, none of them stopped, leaves no child.
-/

namespace JobShell

/-- The signal to terminate has its default effect in every child. -/
theorem SignalEffect.under_terminate (d : Dispositions) :
    SignalEffect.under d Signal.terminate = .kills :=
  rfl

/-- The signal to terminate is in time to end a child that has not come to its stop. -/
theorem Child.defers_terminate (c : Child) : c.defers Signal.terminate = false :=
  Bool.and_false _

/-- A child that is not stopped does not outlive the signal to terminate. -/
theorem Child.state_receive_terminate {c : Child} (moves : ∀ pending, c.state ≠ .stopped pending) :
    ∃ how, (c.receive Signal.terminate).state = .dead how := by
  cases state : c.state with
  | running =>
    refine ⟨.signaled Signal.terminate, ?_⟩
    rw [receive, state, SignalEffect.under_terminate]
    simp only [defers_terminate, Bool.false_eq_true, if_false]
  | stopped pending => exact absurd state (moves pending)
  | dead how =>
    refine ⟨how, ?_⟩
    rw [Session.Child.state_receive_of_dead Signal.terminate state, state]

namespace Session

variable {s s' : Session} {pid q : Pid}

/-- Whether an entry may appear while the shell leaves. -/
def IsLeaving (e : Entry) : Prop :=
  e.isAside = true ∨ ∃ pid, e = .collected pid

/-! ## One job -/

/-- A signal to a child is told aside: it may die of it. -/
theorem extends_signalChild (s : Session) (pid : Pid) (n : Signal) :
    s.machine.transcript.Extends (·.isAside = true) (s.signalChild pid n).machine.transcript := by
  unfold signalChild
  cases found : s.machine.children.find? pid with
  | none =>
    rw [changeChild, found]
    exact .refl _ _
  | some c => exact ⟨_, transcript_changeChild found, isAside_news _ _⟩

theorem extends_terminate (s : Session) (pid : Pid) :
    s.machine.transcript.Extends (·.isAside = true) (s.terminate pid).machine.transcript :=
  .trans (.single rfl) (extends_signalChild _ pid _)

theorem endJob_of_absent (gone : s.stateOf pid = none) : s.endJob pid = (s, true) := by
  rw [stateOf, Option.map_eq_none_iff] at gone
  rw [endJob, gone]

/-- A job that dies of its signal is collected. -/
theorem endJob_of_dead {how : Termination} (there : pid ∈ s.pids)
    (dead : (s.terminate pid).stateOf pid = some (.dead how)) :
    s.endJob pid = ((s.terminate pid).collect pid, true) := by
  obtain ⟨state, known⟩ := mem_pids_iff.1 there
  obtain ⟨c, found, -⟩ := Option.map_eq_some_iff.1 known
  obtain ⟨⟨p, own, descriptors, state⟩, found', same⟩ := Option.map_eq_some_iff.1 dead
  cases same
  rw [terminate] at found'
  unfold endJob
  rw [found]
  dsimp only
  rw [found']
  rfl

/-- To end a job tells that it is sent a signal, that it dies and that it is collected. -/
theorem extends_endJob (s : Session) (pid : Pid) :
    s.machine.transcript.Extends IsLeaving (s.endJob pid).1.machine.transcript := by
  have sent : s.machine.transcript.Extends IsLeaving (s.terminate pid).machine.transcript :=
    (extends_terminate s pid).mono fun _ => .inl
  unfold endJob
  split
  · exact .refl _ _
  · dsimp only
    split
    · exact sent.trans (.single (.inr ⟨pid, rfl⟩))
    · exact sent

/-- The state of a job after it has been sent the signal to end. -/
theorem stateOf_terminate {c : Child} (found : s.machine.children.find? pid = some c) (q : Pid) :
    (s.terminate pid).stateOf q =
      if q = pid then some (c.receive Signal.terminate).state else s.stateOf q :=
  stateOf_changeChild (s := s.record (.sent pid Signal.terminate))
    (Child.pid_receive Signal.terminate) found q

/-- A child that is not stopped is gone when its turn is over, and the others are as before. -/
theorem endJob_collects (member : pid ∈ s.pids)
    (moves : ∀ pending, s.stateOf pid ≠ some (.stopped pending)) :
    (s.endJob pid).2 = true ∧
      (∀ q, (s.endJob pid).1.stateOf q = if q = pid then none else s.stateOf q) ∧
      ∃ added, (s.endJob pid).1.machine.transcript = s.machine.transcript ++ added ∧
        [.sent pid Signal.terminate, .collected pid].Sublist added := by
  obtain ⟨state, known⟩ := mem_pids_iff.1 member
  obtain ⟨c, found, same⟩ := Option.map_eq_some_iff.1 known
  have states := stateOf_terminate found
  obtain ⟨how, dead⟩ : ∃ how, (c.receive Signal.terminate).state = .dead how :=
    Child.state_receive_terminate fun pending stopped =>
      moves pending (known.trans (congrArg some (same.symm.trans stopped)))
  have own : (s.terminate pid).stateOf pid = some (.dead how) := by rw [states, if_pos rfl, dead]
  rw [endJob_of_dead member own]
  refine ⟨rfl, fun q => ?_, ?_⟩
  · rw [stateOf_collect, states]
    split <;> rfl
  · obtain ⟨added, grown, -⟩ := extends_signalChild (s.record (.sent pid Signal.terminate)) pid
      Signal.terminate
    refine ⟨.sent pid Signal.terminate :: added ++ [.collected pid], ?_, ?_⟩
    · show (s.terminate pid).machine.transcript ++ [_] = _
      rw [terminate, grown]
      simp [record, Machine.record]
    · exact List.Sublist.append (List.Sublist.cons_cons _ (List.nil_sublist added)) (.refl _)

/-! ## All jobs -/

/-- The first job, and those behind it: one that does not end holds up the others. -/
theorem endJobs_cons (pid : Pid) (rest : List Pid) (s : Session) :
    endJobs (pid :: rest) s =
      if ((s.untrack pid).endJob pid).2 = true then endJobs rest ((s.untrack pid).endJob pid).1
      else (((s.untrack pid).endJob pid).1, some pid) := by
  rw [endJobs]
  split <;> rename_i result <;> rw [result] <;> rfl

theorem extends_endJobs (jobs : List Pid) (s : Session) :
    s.machine.transcript.Extends IsLeaving (endJobs jobs s).1.machine.transcript := by
  induction jobs generalizing s with
  | nil => exact .refl _ _
  | cons pid rest ih =>
    have first := extends_endJob (s.untrack pid) pid
    rw [endJobs_cons]
    split
    · exact first.trans (ih _)
    · exact first

theorem extends_leave (code : Int) (s : Session) :
    s.machine.transcript.Extends IsLeaving (s.leave code).1.machine.transcript := by
  have ended := extends_endJobs s.jobs.toList s
  unfold leave shutdown
  split <;> rename_i result <;> rw [result] at ended <;> exact ended

theorem mem_pids_of_removed
    (states : ∀ q, s'.stateOf q = if q = pid then none else s.stateOf q) :
    q ∈ s'.pids ↔ q ≠ pid ∧ q ∈ s.pids := by
  rw [mem_pids_iff, mem_pids_iff, states]
  by_cases same : q = pid <;> simp [same]

/-- If no job is stopped, all jobs end, and no child is left if all had a slot. -/
theorem endJobs_collects (jobs : List Pid) (s : Session)
    (named : ∀ pid ∈ s.pids, pid ∈ jobs)
    (moves : ∀ pid pending, s.stateOf pid ≠ some (.stopped pending)) :
    (endJobs jobs s).2 = none ∧ (endJobs jobs s).1.pids = [] ∧
      ∃ added, (endJobs jobs s).1.machine.transcript = s.machine.transcript ++ added ∧
        ∀ pid ∈ s.pids, [.sent pid Signal.terminate, .collected pid].Sublist added := by
  induction jobs generalizing s with
  | nil =>
    have nobody : s.pids = [] := List.eq_nil_iff_forall_not_mem.2 fun pid member =>
      List.not_mem_nil (named pid member)
    refine ⟨rfl, nobody, [], (List.append_nil _).symm, fun pid member => ?_⟩
    rw [nobody] at member
    cases member
  | cons pid rest ih =>
    rw [endJobs_cons]
    -- A slot may hold a process id that is not a child's any more; its turn is over at once.
    by_cases member : pid ∈ s.pids
    · obtain ⟨ended, states, added, grown, sent⟩ :=
        endJob_collects (s := s.untrack pid) member (moves pid)
      have left : ∀ q, q ∈ ((s.untrack pid).endJob pid).1.pids ↔ q ≠ pid ∧ q ∈ s.pids :=
        fun q => mem_pids_of_removed states
      have named' : ∀ q ∈ ((s.untrack pid).endJob pid).1.pids, q ∈ rest := fun q there =>
        (List.mem_cons.1 (named q ((left q).1 there).2)).resolve_left ((left q).1 there).1
      have moves' : ∀ q pending,
          ((s.untrack pid).endJob pid).1.stateOf q ≠ some (.stopped pending) := by
        intro q pending
        rw [states]
        split
        · simp
        · exact moves q pending
      obtain ⟨all, nobody, more, grown', sent'⟩ := ih _ named' moves'
      rw [if_pos ended]
      refine ⟨all, nobody, added ++ more, ?_, fun q there => ?_⟩
      · rw [grown', grown, List.append_assoc]
        rfl
      · by_cases same : q = pid
        · subst same
          exact sent.trans (List.sublist_append_left added more)
        · exact (sent' q ((left q).2 ⟨same, there⟩)).trans (List.sublist_append_right added more)
    · have gone : (s.untrack pid).stateOf pid = none := stateOf_eq_none_iff.2 member
      rw [endJob_of_absent gone, if_pos rfl]
      refine ih (s.untrack pid) (fun q there => ?_) moves
      exact (List.mem_cons.1 (named q there)).resolve_left fun same => member (same ▸ there)

end Session

end JobShell
