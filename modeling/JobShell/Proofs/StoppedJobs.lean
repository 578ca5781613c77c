import JobShell.Proofs.Course
import JobShell.Proofs.Leaving

/-!
# Jobs that keep the shell from leaving

The signal to terminate ends a running job at once, even one that has been sent a signal to stop and
has not come to its stop, and takes a dead one as it is. But a job that has come to its stop does not
act on it. The shell waits for each job in its table before it turns to the next, so it waits for ever
for the first that is stopped, and those behind it are not even told to end.

* `endJobs_eq_find?`: the job that the shell waits for.
* `leaving_returns_iff`: runs that come to `exit` or to the end of input.
-/

namespace JobShell

/-- A stopped child takes the signal to terminate only as one more that is pending. -/
theorem Child.state_terminate_of_stopped {c : Child} {pending : Option Signal}
    (stopped : c.state = .stopped pending) : (c.receive Signal.terminate).state =
      .stopped (some (pending.getD Signal.terminate)) := by
  rw [receive, stopped, SignalEffect.under_terminate]
  rfl

namespace Session

variable {env : Environment} {s s' : Session} {pid q : Pid} {code : Int}

/-- Whether there is a child with a process id and it is stopped. -/
def isStopped (s : Session) (pid : Pid) : Bool :=
  (s.machine.children.find? pid).any Child.isStopped

/-- A job is stopped by its state, whatever is pending. -/
theorem isStopped_iff :
    s.isStopped pid = true ↔ ∃ pending, s.stateOf pid = some (.stopped pending) := by
  unfold isStopped stateOf
  cases s.machine.children.find? pid with
  | none => simp
  | some c => cases state : c.state <;> simp [Child.isStopped, state]

theorem isStopped_congr (same : s'.stateOf q = s.stateOf q) : s'.isStopped q = s.isStopped q := by
  rw [Bool.eq_iff_iff, isStopped_iff, isStopped_iff, same]

/-! ## One job after the other -/

/-- The wait for a stopped job does not end. -/
theorem endJob_of_stopped (stopped : s.isStopped pid = true) : (s.endJob pid).2 = false := by
  obtain ⟨pending, known⟩ := isStopped_iff.1 stopped
  obtain ⟨c, found, state⟩ := Option.map_eq_some_iff.1 known
  have still : (s.terminate pid).stateOf pid =
      some (.stopped (some (pending.getD Signal.terminate))) := by
    rw [stateOf_terminate found, if_pos rfl, Child.state_terminate_of_stopped state]
  obtain ⟨⟨p, own, descriptors, state'⟩, found', same⟩ := Option.map_eq_some_iff.1 still
  cases same
  rw [terminate] at found'
  unfold endJob
  rw [found]
  dsimp only
  rw [found']

/-- A job that is not stopped is ended, and which of the children are stopped stays the same. -/
theorem endJob_of_not_stopped (moves : s.isStopped pid = false) :
    (s.endJob pid).2 = true ∧ (s.endJob pid).1.isStopped = s.isStopped := by
  by_cases member : pid ∈ s.pids
  · have state : ∀ pending, s.stateOf pid ≠ some (.stopped pending) := fun pending known => by
      rw [isStopped_iff.2 ⟨pending, known⟩] at moves
      cases moves
    obtain ⟨ended, states, -⟩ := endJob_collects member state
    refine ⟨ended, funext fun q => ?_⟩
    by_cases same : q = pid
    · subst same
      rw [moves, ← Bool.not_eq_true, isStopped_iff, states, if_pos rfl]
      rintro ⟨pending, known⟩
      cases known
    · refine isStopped_congr ?_
      rw [states, if_neg same]
  · rw [endJob_of_absent (stateOf_eq_none_iff.2 member)]
    exact ⟨rfl, rfl⟩

/-- The shell waits for ever for the first of the jobs that is stopped. -/
theorem endJobs_eq_find? (jobs : List Pid) (s : Session) :
    (endJobs jobs s).2 = jobs.find? s.isStopped := by
  induction jobs generalizing s with
  | nil => rfl
  | cons pid rest ih =>
    have untracked : (s.untrack pid).isStopped = s.isStopped := rfl
    rw [endJobs_cons, List.find?_cons]
    cases stopped : s.isStopped pid with
    | true =>
      rw [endJob_of_stopped (s := s.untrack pid) stopped]
      rfl
    | false =>
      obtain ⟨ended, others⟩ := endJob_of_not_stopped (s := s.untrack pid) stopped
      rw [if_pos ended, ih, others, untracked]

/-- The shell returns unless a job is stopped, and waits for the first that is. -/
theorem leave_eq (code : Int) (s : Session) : (s.leave code).2 =
    match s.jobs.toList.find? s.isStopped with
    | none => .returned code
    | some pid => .stuck pid := by
  rw [← endJobs_eq_find?]
  unfold leave shutdown
  split <;> rename_i result <;> rw [result]

/-! ## Runs that leave the loop -/

/-- How a shell ends that leaves from the session `s`: it returns exactly if no job in its table is
stopped, and otherwise waits for ever for the first that is, in the order of the slots. -/
structure EndsUnlessStopped (code : Int) (s : Session) (ending : Ending) : Prop where
  returns : ending = .returned code ↔ ∀ pid ∈ s.jobs.toList, s.isStopped pid = false
  waits : ∀ pid, ending = .stuck pid ↔ s.jobs.toList.find? s.isStopped = some pid

/-- How the shell leaves, by the jobs that are stopped. -/
theorem endsUnlessStopped_leave (code : Int) (s : Session) :
    EndsUnlessStopped code s (s.leave code).2 := by
  have moving : s.jobs.toList.find? s.isStopped = none ↔
      ∀ pid ∈ s.jobs.toList, s.isStopped pid = false := by
    rw [List.find?_eq_none]
    simp
  rw [leave_eq]
  cases first : s.jobs.toList.find? s.isStopped with
  | none => exact ⟨iff_of_true rfl (moving.1 first), by simp [first]⟩
  | some pid =>
    refine ⟨iff_of_false (by simp) fun all => ?_, fun q => by simp [first]⟩
    rw [moving.2 all] at first
    cases first

theorem Course.endsUnlessStopped {c : Course} (left : c.halt = .left code) :
    EndsUnlessStopped code c.last c.close.2 := by
  rw [close, left]
  exact endsUnlessStopped_leave code c.last

/-- A shell whose loop is ended by `exit` or by the end of input returns exactly if no job in its
table is stopped at that time. Running jobs and dead ones do not hold it up; the first stopped one, in
the order of the slots, holds it up for ever. -/
theorem leaving_returns_iff (env : Environment) (s : Session) (arrivals : List Arrival) :
    let c := s.course env (Input.readings arrivals)
    let shared := s.courseShared env (Input.readings (Input.blocks (s.readInput none).2))
    (∀ code, c.halt = .left code → EndsUnlessStopped code c.last (s.run env arrivals).2) ∧
      ∀ code, shared.halt = .left code →
        EndsUnlessStopped code shared.last (s.runShared env).2 := by
  intro c shared
  have run : s.run env arrivals = c.close := listen_eq_close env _ s
  have runShared : s.runShared env = shared.close := listenShared_eq_close env _ s
  rw [run, runShared]
  exact ⟨fun code left => Course.endsUnlessStopped left, fun code left =>
    Course.endsUnlessStopped left⟩

/-- When the shell is to leave, one of three jobs has been stopped and continued, one is dead, and one
has been sent a signal to stop but has not come to its stop. The shell returns. -/
theorem leaving_returns_after_resumption :
    let arrivals : List Arrival := [{ bytes := Text.encode "hold &\nhold &\nhold &\n" },
      { before := [.poke 1 Signal.stop, .halt 1, .poke 1 Signal.resume, .kill 2 Signal.kill,
          .poke 3 Signal.stop],
        bytes := Text.encode "exit 3\n" }]
    let c := (memoryShell 3).course memoryEnvironment (Input.readings arrivals)
    c.halt = .left 3 ∧ c.last.jobs.toList = [1001, 1002, 1003] ∧
      c.last.stateOf 1001 = some .running ∧ c.last.stateOf 1002 = some (.dead (.signaled 9)) ∧
      (c.last.machine.children.find? 1003).map Child.stopping = some true ∧
      ((memoryShell 3).run memoryEnvironment arrivals).2 = .returned 3 := by
  intro arrivals c
  have left : c.halt = .left 3 := by decide +kernel
  have moving : ∀ pid ∈ c.last.jobs.toList, c.last.isStopped pid = false := by decide +kernel
  have ends := (leaving_returns_iff memoryEnvironment (memoryShell 3) arrivals).1 3 left
  exact ⟨left, by decide +kernel, by decide +kernel, by decide +kernel, by decide +kernel,
    ends.returns.2 moving⟩

/-- A stopped job keeps the shell from leaving, and the job behind it is never told to end. -/
theorem leaving_waits_for_stopped_job :
    let arrivals : List Arrival := [{ bytes := Text.encode "hold &\nhold &\n" },
      { before := [.poke 1 Signal.stop], bytes := Text.encode "true\n" },
      { before := [.halt 1], bytes := Text.encode "exit 3\n" }]
    let run := (memoryShell 2).run memoryEnvironment arrivals
    ((memoryShell 2).course memoryEnvironment (Input.readings arrivals)).halt = .left 3 ∧
      run.2 = .stuck 1001 ∧
      run.1.stateOf 1001 = some (.stopped (some Signal.terminate)) ∧
      run.1.stateOf 1002 = some .running ∧
      .sent 1001 Signal.terminate ∈ run.1.machine.transcript ∧
      .sent 1002 Signal.terminate ∉ run.1.machine.transcript := by
  decide +kernel

end Session

end JobShell
