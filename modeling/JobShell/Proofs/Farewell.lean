import JobShell.Proofs.ForegroundWaits
import JobShell.Proofs.Shutdown
import JobShell.Proofs.Turns

/-!
# Ending the jobs of a session

A session ends the jobs in its table by the same turns, with its machine for the system: a job that
is no longer there refuses the signal, and the wait for one that does not act on it never ends.

* `endJobs_of_turns`: what the calls of the turns do to the session is what it is to end the jobs.
* `shutDown_takes_turns`: the signals and the waits, whatever the system answers.
-/

namespace JobShell

/-! ## The table left behind -/

namespace JobTable

variable {t : JobTable}

theorem eq_empty_of_toList_eq_nil (nobody : t.toList = []) : t = .empty t.capacity := by
  have all : ∀ slot ∈ t.slots, slot = none := List.filterMap_eq_nil_iff.1 nobody
  show t = ⟨List.replicate t.slots.length none⟩
  rw [← List.eq_replicate_iff.2 ⟨rfl, all⟩]

/-- Every slot is free when each process id that is stored has been taken out. -/
theorem foldl_untrack_of_toList_eq {pids : List Pid} (whole : t.toList = pids) :
    pids.foldl untrack t = .empty t.capacity := by
  induction pids generalizing t with
  | nil => exact eq_empty_of_toList_eq_nil whole
  | cons pid rest ih =>
    have left : (t.untrack pid).toList = rest := by
      rw [toList_untrack, whole, List.erase_cons_head]
    rw [List.foldl_cons, ih left, capacity_untrack]

end JobTable

namespace Session

variable {s : Session} {pid : Pid} {pids : List Pid} {turn calls before : List Call}
variable {stuck : Option Pid}

/-! ## The machine as the system -/

/-- Calls in two parts are replayed one part after the other. -/
theorem afterCalls_append (s : Session) (calls more : List Call) :
    s.afterCalls (calls ++ more) = (s.afterCalls calls).afterCalls more :=
  List.foldl_append

/-! ## One turn -/

/-- A job is gone, or it is dead when it has been sent the signal and is waited for, or it does not
act on the signal. -/
theorem endJob_cases (s : Session) (pid : Pid) :
    s.jobAnswers pid = ⟨.error .noSuchProcess, []⟩ ∧ s.endJob pid = (s, true) ∨
    (∃ how : Termination, s.jobAnswers pid = ⟨.ok (), [how.decode.map Termination.status]⟩ ∧
      s.endJob pid = ((s.terminate pid).collect pid, true)) ∨
    s.jobAnswers pid = ⟨.ok (), []⟩ ∧ s.endJob pid = (s.terminate pid, false) := by
  unfold jobAnswers endJob waitAnswers stateOf
  cases s.machine.children.find? pid with
  | none => exact .inl ⟨rfl, rfl⟩
  | some c =>
    refine .inr ?_
    dsimp only [Option.map_some]
    rw [← terminate]
    cases (s.terminate pid).machine.children.find? pid with
    | none => exact .inr ⟨rfl, rfl⟩
    | some child =>
      obtain ⟨p, own, descriptors, state⟩ := child
      cases state with
      | running => exact .inr ⟨rfl, rfl⟩
      | stopped pending => exact .inr ⟨rfl, rfl⟩
      | dead how => exact .inl ⟨how, rfl, rfl⟩

/-- To end a job leaves the job table alone: it is untracked before. -/
theorem jobs_endJob (s : Session) (pid : Pid) : (s.endJob pid).1.jobs = s.jobs := by
  have sent : (s.terminate pid).jobs = s.jobs := (changeChild_frame _ _ _).2.1
  rcases endJob_cases s pid with ⟨-, gone⟩ | ⟨how, -, dead⟩ | ⟨-, alive⟩
  · rw [gone]
  · rw [dead]
    exact sent
  · rw [alive]
    exact sent

/-- What the calls of a finished turn do is what it is to end the job. -/
theorem endJob_of_turnOver (h : TurnOver pid ((s.untrack pid).jobAnswers pid) turn) :
    (s.untrack pid).endJob pid = (s.afterCalls turn, true) := by
  rcases endJob_cases (s.untrack pid) pid with ⟨told, gone⟩ | ⟨how, told, dead⟩ | ⟨told, -⟩
  · rw [told] at h
    cases h with
    | refused refusal => exact gone
    | concluded sent => cases sent
  · rw [told] at h
    cases h with
    | refused refusal => cases refusal
    | @concluded again more last sent waits all ends =>
      have alone : again = [] ∧ last = how.decode.map Termination.status := by
        rcases List.singleton_eq_append_iff.1 waits with ⟨none_before, rest⟩ | ⟨-, rest⟩
        · exact ⟨none_before, (List.cons.inj rest).1⟩
        · cases rest
      obtain ⟨rfl, rfl⟩ := alone
      have released : ((s.untrack pid).terminate pid).undergo
          (.wait pid (how.decode.map Termination.status)) =
            ((s.untrack pid).terminate pid).release pid how.decode := by
        rw [undergo, WaitResult.conclusion?_decode]
      rw [dead, ← release_decode _ pid how, ← released]
      rfl
  · rw [told] at h
    cases h with
    | refused refusal => cases refusal
    | concluded sent waits => simp at waits

/-- A turn that goes on keeps the shell. -/
theorem endJob_of_turnOpen (h : TurnOpen pid ((s.untrack pid).jobAnswers pid) turn) :
    (s.untrack pid).endJob pid = (s.afterCalls turn, false) := by
  rcases endJob_cases (s.untrack pid) pid with ⟨told, -⟩ | ⟨how, told, -⟩ | ⟨told, alive⟩
  · rw [told] at h
    obtain ⟨sent, -⟩ := h
    cases sent
  · rw [told] at h
    obtain ⟨-, all⟩ := h
    have again := WaitResult.conclusion?_eq_none_iff.2 (all _ (List.mem_singleton_self _))
    rw [WaitResult.conclusion?_decode] at again
    cases again
  · rw [told] at h
    obtain ⟨-, -⟩ := h
    exact alive

/-! ## All turns -/

/-- The calls of the turns make of the session what comes of ending the jobs. -/
theorem endJobs_of_turns (h : Turns s.answering before pids calls stuck) :
    endJobs pids (s.afterCalls before) = (s.afterCalls (before ++ calls), stuck) := by
  -- `s` stays the session before all calls, for the machine's answers are taken from there.
  induction h with
  | nobody => simp [endJobs]
  | @ended before turn calls pid rest stuck turn_over _ ih =>
    rw [endJobs_cons, endJob_of_turnOver turn_over, if_pos rfl, ← afterCalls_append, ih,
      List.append_assoc]
  | @goes_on before turn pid rest turn_open =>
    rw [endJobs_cons, endJob_of_turnOpen turn_open, if_neg Bool.false_ne_true, afterCalls_append]

/-- When all jobs have ended, all have been untracked. -/
theorem jobs_endJobs (pids : List Pid) (s : Session) (returned : (endJobs pids s).2 = none) :
    (endJobs pids s).1.jobs = pids.foldl JobTable.untrack s.jobs := by
  induction pids generalizing s with
  | nil => rfl
  | cons pid rest ih =>
    rw [endJobs_cons] at returned ⊢
    split at returned
    · rename_i ended
      rw [if_pos ended, ih _ returned, jobs_endJob]
      rfl
    · cases returned

/-- A session ends its jobs as its table does, with the machine for the system. -/
theorem shutdown_eq_afterCalls (s : Session) :
    ∃ stuck, Turns s.answering [] s.jobs.toList (s.jobs.shutDown s.answering).1 stuck ∧
      s.shutdown = (s.afterCalls (s.jobs.shutDown s.answering).1, stuck) ∧
      (stuck = none → s.shutdown.1.jobs = .empty s.jobs.capacity) := by
  obtain ⟨stuck, turns, -⟩ := turns_shutDown s.answering s.jobs
  have whole : s.shutdown = (s.afterCalls (s.jobs.shutDown s.answering).1, stuck) :=
    endJobs_of_turns turns
  refine ⟨stuck, turns, whole, fun returned => ?_⟩
  rw [shutdown, jobs_endJobs _ s (by rw [← shutdown, whole, returned]),
    JobTable.foldl_untrack_of_toList_eq rfl]

end Session

/-! ## The signals and the waits -/

/-- What comes of ending the jobs of a table. `reached` are the jobs whose turn has come, in order,
and `stuck` is the one whose turn goes on for ever, if there is one. -/
structure Farewell (system : System) (t : JobTable) (reached : List Pid) (stuck : Option Pid)
    (outcome : List Call × Except Pid JobTable) : Prop where
  turns : Turns system [] t.toList outcome.1 stuck
  order : outcome.1.IsChain Call.Next
  signals : outcome.1.filterMap Call.signal? = reached.map (·, Signal.terminate)
  once : t.toList.Nodup → (outcome.1.filterMap Call.signal?).Nodup
  first : reached <+: t.toList
  returns : stuck = none → reached = t.toList ∧ outcome.2 = .ok (.empty t.capacity)
  waits : ∀ pid, stuck = some pid → reached.getLast? = some pid ∧ outcome.2 = .error pid
  /-- No job is waited for for ever if the system refuses its signal or concludes a wait for it. -/
  concluded : (∀ before, ∀ pid ∈ t.toList, (system before pid).Conclude) → stuck = none

/-- Whatever the system answers to each signal and to each wait, the jobs of a table are sent the
signal to terminate once each, and nobody else is, in the order of the slots. The next job has its
turn only when the signal to the one before was refused, or a wait for it has told of its end or has
failed; after any other answer the shell waits again. When the last turn is over, every slot is
free. A session ends its jobs like this, with the machine for the system. -/
theorem shutDown_takes_turns (system : System) (t : JobTable) :
    (∃ reached stuck, Farewell system t reached stuck (t.shutDown system)) ∧
      ∀ s : Session, ∃ stuck,
        Turns s.answering [] s.jobs.toList (s.jobs.shutDown s.answering).1 stuck ∧
        s.shutdown = (s.afterCalls (s.jobs.shutDown s.answering).1, stuck) ∧
        (stuck = none → s.shutdown.1.jobs = .empty s.jobs.capacity) := by
  refine ⟨?_, Session.shutdown_eq_afterCalls⟩
  obtain ⟨stuck, turns, result⟩ := turns_shutDown system t
  obtain ⟨reached, first, signals, all, last⟩ := turns.signals
  refine ⟨reached, stuck, turns, turns.isChain, signals, fun distinct => ?_, first,
    fun returned => ⟨all returned, ?_⟩, fun pid goes_on => ⟨last pid goes_on, ?_⟩, turns.returns⟩
  · rw [signals]
    exact (first.sublist.nodup distinct).map fun p q same => congrArg Prod.fst same
  · rw [result, returned]
  · rw [result, goes_on]

/-- One job is gone, the wait for another is interrupted and reports that it goes on before it tells
of an exit, and the wait for a third fails. -/
theorem shutDown_takes_turns_past_failures :
    let t : JobTable := ⟨[some 11, none, some 12, some 13]⟩
    let system : System := fun _ pid =>
      if pid = 11 then ⟨.error .noSuchProcess, []⟩
      else if pid = 12 then ⟨.ok (), [.error .interrupted, .ok .continued, .ok (.exited 0)]⟩
      else ⟨.ok (), [.error .noChildren]⟩
    let outcome := t.shutDown system
    outcome.2 = .ok (.empty 4) ∧
      outcome.1.filterMap Call.signal? =
        [(11, Signal.terminate), (12, Signal.terminate), (13, Signal.terminate)] ∧
      (outcome.1.filterMap Call.signal?).Nodup := by
  intro t system outcome
  obtain ⟨⟨reached, stuck, farewell⟩, -⟩ := shutDown_takes_turns system t
  have concluded : ∀ before, ∀ pid ∈ t.toList, (system before pid).Conclude := by
    intro before pid member sent
    have named : pid = 11 ∨ pid = 12 ∨ pid = 13 := by simpa [t, JobTable.toList] using member
    rcases named with rfl | rfl | rfl
    · cases sent
    · exact ⟨.ok (.exited 0), by simp [system], by simp [WaitResult.Unfinished,
        WaitStatus.termination?]⟩
    · exact ⟨.error .noChildren, by simp [system], by simp [WaitResult.Unfinished,
        Errno.noChildren, Errno.interrupted]⟩
  obtain ⟨all, left⟩ := farewell.returns (farewell.concluded concluded)
  refine ⟨left, ?_, farewell.once (by decide)⟩
  rw [farewell.signals, all]
  rfl

end JobShell
