import JobShell.Proofs.Background
import JobShell.SystemCalls

/-!
# The job table across a foreground wait

A foreground child is in the job table while the shell waits for it, if there is room. The place
that it takes is the first free one, and it is taken out of that one again, so the table does not
show that it was there. How the wait comes out makes no difference.

* `spawn_of_foreground`: a foreground command under what the machine answers.
* `runForeground_leaves_jobs`: the shell after a foreground command, whatever the system answers.
-/

namespace JobShell

/-! ## What the machine answers -/

/-- The status tells the end that it reports. -/
theorem Termination.termination?_status (how : Termination) :
    how.status.termination? = some how := by
  cases how <;> rfl

theorem Termination.decode_eq (how : Termination) :
    how.decode = .ok how ∨ how.decode = .error .invalidArgument := by
  cases known : how.isClassic with
  | true => exact .inl (decode_of_isClassic known)
  | false => exact .inr (decode_of_not_isClassic known)

/-- The wait for a dead child is concluded at once. -/
theorem WaitResult.conclusion?_decode (how : Termination) :
    WaitResult.conclusion? (how.decode.map Termination.status) = some how.decode := by
  rcases how.decode_eq with told | untold
  · rw [told]
    exact congrArg (Option.map Except.ok) how.termination?_status
  · rw [untold]
    rfl

namespace Session

variable {env : Environment} {s w : Session} {c : Command} {argv : List String}
variable {meanwhile : List Event} {pid q : Pid} {how : Termination}
variable {answers : Session → Pid → List WaitResult} {result : Except Errno Termination}

/-- What the system answers to a wait, by the state of the child. -/
theorem waitAnswers_eq (s : Session) (pid : Pid) : s.waitAnswers pid = match s.stateOf pid with
    | some (.dead how) => [how.decode.map Termination.status]
    | _ => [] := by
  unfold waitAnswers stateOf
  cases s.machine.children.find? pid with
  | none => rfl
  | some c =>
    obtain ⟨p, own, descriptors, state⟩ := c
    cases state <;> rfl

/-- A child whose end is told, or cannot be decoded, is collected. -/
theorem release_decode (s : Session) (pid : Pid) (how : Termination) :
    s.release pid how.decode = s.collect pid := by
  rcases how.decode_eq with told | untold
  · rw [told]
    rfl
  · rw [untold, release, if_pos rfl]

/-- The wait of the program is the wait under the answers of its machine. -/
theorem awaitForeground_eq_awaitUnder (s : Session) (pid : Pid) :
    s.awaitForeground pid = s.awaitUnder waitAnswers pid := by
  rw [awaitForeground_eq, awaitUnder, waitAnswers_eq]
  cases s.stateOf pid with
  | none => rfl
  | some state =>
    cases state with
    | running => rfl
    | stopped pending => rfl
    | dead how =>
      have told : awaitEnd [how.decode.map Termination.status] = some how.decode := by
        rw [awaitEnd, List.findSome?_cons, WaitResult.conclusion?_decode]
      dsimp only
      rw [told]
      dsimp only
      rw [release_decode]
      rfl

/-! ## Foreground commands -/

/-- A foreground command of the program is one under these answers. -/
theorem spawn_of_foreground (env : Environment) (meanwhile : List Event) (s : Session)
    (foreground : c.background = false) :
    s.spawn env c meanwhile = s.runForeground waitAnswers env c meanwhile := by
  rw [spawn_eq, runForeground, foreground]
  cases c.programArgv with
  | error e => rfl
  | ok argv =>
    dsimp only
    rw [if_neg Bool.false_ne_true, carryOut_of_foreground foreground, awaitForeground_eq_awaitUnder]
    rfl

/-! ## What a wait leaves behind -/

theorem flags_noteEnd (s : Session) (result : Except Errno Termination) :
    (s.noteEnd result).1.flags = s.flags := by
  cases result with
  | error e => rfl
  | ok how => cases how <;> rfl

/-- A wait that has come to an end collects the child, or nobody. -/
theorem release_cases (s : Session) (pid : Pid) (result : Except Errno Termination) :
    s.release pid result = s.collect pid ∨ s.release pid result = s := by
  cases result with
  | ok how => exact .inl rfl
  | error e =>
    rw [release]
    split
    · exact .inl rfl
    · exact .inr rfl

/-- The job table does not change with the end of a wait. -/
theorem jobs_release (s : Session) (pid : Pid) (result : Except Errno Termination) :
    (s.release pid result).jobs = s.jobs := by
  rcases release_cases s pid result with collected | kept
  · rw [collected]
    rfl
  · rw [kept]

/-- A wait takes no other child away. -/
theorem mem_pids_release (other : q ≠ pid) : q ∈ (s.release pid result).pids ↔ q ∈ s.pids := by
  rcases release_cases s pid result with collected | kept
  · rw [collected, pids_collect, List.mem_filter]
    simp [other]
  · rw [kept]

/-- Whether an entry, if it tells that a child is collected or reported, tells that `pid` is
collected. -/
def ReapsOnly (pid : Pid) (e : Entry) : Prop :=
  e.isReaping = true → e = .collected pid

theorem reapsOnly_of_child? {e : Entry} (h : e.child? = none) : ReapsOnly pid e := by
  intro reaps
  unfold Entry.isReaping at reaps
  split at reaps <;> simp_all [Entry.child?]

theorem extends_release (s : Session) (pid : Pid) (result : Except Errno Termination) :
    s.machine.transcript.Extends (ReapsOnly pid) (s.release pid result).machine.transcript := by
  rcases release_cases s pid result with collected | kept
  · rw [collected]
    exact .single fun _ => rfl
  · rw [kept]
    exact .refl _ _

/-! ## A foreground child among the others -/

/-- While a foreground child runs, it is one more child. -/
theorem pids_attend : (s.attend env c argv meanwhile).pids = s.pids ++ [s.newPid] := by
  have meant := outside_applyAll ((bear env c argv s).1.track s.newPid) meanwhile
  have ran := (quiet_runChild env c argv (s.addChild (Launch.dispositions env c) c.background).1).pids
  have settled : (s.attend env c argv meanwhile).pids =
      (((bear env c argv s).1.track s.newPid).applyAll meanwhile).pids :=
    pids_changeChild fun _ => rfl
  rw [settled, meant.pids]
  exact ran.trans List.map_append

theorem Attended.extends {state : ChildState} (attended : Attended s w state) :
    s.machine.transcript.Extends (ReapsOnly s.newPid) w.machine.transcript := by
  obtain ⟨-, -, -, during, whole, -, all⟩ := attended.heard
  refine ⟨_, whole, fun e member => ?_⟩
  rcases List.mem_cons.1 member with rfl | member
  · exact nofun
  · intro reaps
    unfold Entry.isReaping at reaps
    split at reaps
    · cases all _ member
    · cases all _ member
    · cases reaps

/-- What comes of a foreground command. The shell is stuck only if no answer concludes the wait for
the child. Otherwise it does not wait any more, and every slot of the job table is as it was. In
both cases no other child has been collected or reported. -/
structure LeavesJobs (answers : Session → Pid → List WaitResult) (s : Session)
    (result : Session × Outcome) : Prop where
  stuck : ∀ pid, result.2 = .stuck pid → pid = s.newPid ∧ awaitEnd (answers result.1 pid) = none
  jobs : (∀ pid, result.2 ≠ .stuck pid) → result.1.jobs = s.jobs
  idle : (∀ pid, result.2 ≠ .stuck pid) → result.1.flags.waiting = false
  children : ∀ q, q ≠ s.newPid → (q ∈ result.1.pids ↔ q ∈ s.pids)
  transcript : s.machine.transcript.Extends (ReapsOnly s.newPid) result.1.machine.transcript

/-- A command that is refused leaves the jobs as they are. -/
theorem leavesJobs_of_idle (idle : s.flags.waiting = false) (e : ShellError) :
    LeavesJobs answers s (s, .error e) :=
  ⟨nofun, fun _ => rfl, fun _ => idle, fun _ _ => .rfl, .refl _ _⟩

/-- However the wait ends, the child is untracked and the others are left. -/
theorem Attended.leavesJobs {state : ChildState} (attended : Attended s w state)
    (untracked : s.newPid ∉ s.jobs.toList) (pids : w.pids = s.pids ++ [s.newPid]) :
    LeavesJobs answers s (w.awaitUnder answers s.newPid) := by
  have others : ∀ q, q ≠ s.newPid → (q ∈ w.pids ↔ q ∈ s.pids) := fun q other => by
    rw [pids, List.mem_append, List.mem_singleton, or_iff_left other]
  unfold awaitUnder
  cases told : awaitEnd (answers w s.newPid) with
  | none =>
    refine ⟨fun pid same => ?_, fun moves => absurd rfl (moves _),
      fun moves => absurd rfl (moves _), others, attended.extends⟩
    cases same
    exact ⟨rfl, told⟩
  | some result =>
    have quiet := quiet_noteEnd (((w.release s.newPid result).untrack s.newPid).setWaiting false)
      result
    refine ⟨fun pid same => absurd same (noteEnd_ne_stuck _ _ pid), fun _ => ?_, fun _ => ?_,
      fun q other => ?_, ?_⟩
    · rw [quiet.jobs]
      -- It went into the first free slot, if there was one, and no slot before that one holds it.
      show (w.release s.newPid result).jobs.untrack s.newPid = s.jobs
      rw [jobs_release, attended.jobs, JobTable.untrack_track untracked]
    · rw [flags_noteEnd]
      rfl
    · rw [quiet.pids, ← others q other]
      exact mem_pids_release other
    · have released := attended.extends.trans (extends_release w s.newPid result)
      exact released.trans (quiet.machine.transcript.mono fun _ => reapsOnly_of_child?)

/-- However the wait for the child of a foreground command comes out, the job table is slot for slot
as it was, and the children of the background are all still there: the child exits or is killed, its
end cannot be decoded, or the wait fails. Between two lines every shell is idle (`Reaches.steady`),
and what it does itself is the case in which the machine answers. -/
theorem runForeground_leaves_jobs (answers : Session → Pid → List WaitResult) (env : Environment)
    (c : Command) (meanwhile : List Event) (s : Session) (foreground : c.background = false)
    (idle : s.flags.waiting = false) (untracked : s.newPid ∉ s.jobs.toList) :
    LeavesJobs answers s (s.runForeground answers env c meanwhile) ∧
      s.spawn env c meanwhile = s.runForeground waitAnswers env c meanwhile := by
  refine ⟨?_, spawn_of_foreground env meanwhile s foreground⟩
  have lowered : (s.setWaiting true).setWaiting false = s := setWaiting_eq_self (s := s) idle
  unfold runForeground
  cases c.programArgv with
  | error e => exact leavesJobs_of_idle idle e
  | ok argv =>
    dsimp only
    split
    · rw [lowered]
      exact leavesJobs_of_idle idle _
    · exact (attended_attend foreground).leavesJobs untracked pids_attend

/-- The table has a hole, the wait is interrupted, then it finds the child alive, then it fails, and
a job is killed meanwhile. -/
theorem runForeground_leaves_jobs_of_failed_wait :
    let s := (memoryShell 3).rounds memoryEnvironment [lineAfter "hold &" [], lineAfter "hold &" [],
      lineAfter "hold &" [], lineAfter "" [.kill 2 Signal.kill]]
    let answers := fun (_ : Session) (_ : Pid) =>
      [.error .interrupted, .ok .stillAlive, .error .noChildren]
    let result := s.runForeground answers memoryEnvironment { argv := ["exitwith", "3"] }
      [.kill 1 Signal.kill]
    s.jobs.slots = [some 1001, none, some 1003] ∧ s.flags.waiting = false ∧
      result.2 = .error (.system .noChildren) ∧ result.1.jobs = s.jobs ∧
      result.1.flags.waiting = false ∧ 1001 ∈ result.1.pids := by
  intro s answers result
  have idle : s.flags.waiting = false := by decide +kernel
  have untracked : s.newPid ∉ s.jobs.toList := by decide +kernel
  have failed : result.2 = .error (.system .noChildren) := by decide +kernel
  have returns : ∀ pid, result.2 ≠ .stuck pid := by simp [failed]
  obtain ⟨leaves, -⟩ := runForeground_leaves_jobs answers memoryEnvironment
    { argv := ["exitwith", "3"] } [.kill 1 Signal.kill] s rfl idle untracked
  exact ⟨by decide +kernel, idle, failed, leaves.jobs returns, leaves.idle returns,
    (leaves.children 1001 (by decide +kernel)).2 (by decide +kernel)⟩

end Session

end JobShell
