import JobShell.Proofs.Rounds

/-!
# Lines that end in an error

An error is met before a child is made, or it is that the end of a foreground child cannot be told.
In the first case nothing has changed since the line was taken; in the second what was done for the
wait has been undone, and only the signals that came during the wait count.

* `failed_line_keeps_state`: so it is for every error, and the loop goes on with the next line.
-/

namespace JobShell.Session

variable {env : Environment} {s s' p w : Session} {r : Reading} {e : ShellError}
variable {how : Termination}

/-- What the shell keeps when a line ends in an error. -/
structure Kept (p s' : Session) : Prop where
  /-- The child whose end could not be told has given its slot back. -/
  jobs : p.newPid ∉ p.jobs.toList → s'.jobs = p.jobs
  lastStatus : s'.lastStatus = p.lastStatus
  cwd : s'.machine.cwd = p.machine.cwd
  options : s'.options = p.options
  idle : s'.flags.waiting = false

/-- A foreground child has been made between `p` and `s'` and has ended in a way that cannot be told.
The mode and its notices have followed the terminal stops that came `during` the wait. -/
structure Untold (p s' : Session) (during : Transcript) : Prop where
  transcript : s'.machine.transcript =
    p.machine.transcript ++ .forked p.newPid false :: during ++ [.collected p.newPid]
  meanwhile : ∀ e ∈ during, e.isMeanwhile true = true
  died : p.Fresh → ∃ how, how.isClassic = false ∧ .died p.newPid how ∈ during
  mode : s'.flags.foregroundOnly = (p.flags.foregroundOnly ^^ during.flips)
  pending : s'.flags.pending = ((p.flags.setWaiting true).toggled during.stops).pending

/-- A foreground child leaves the other jobs where they were. -/
theorem Attended.kept (attended : Attended p w (.dead how)) : Kept p (w.afterWait p.newPid) := by
  obtain ⟨options, lastStatus, cwd, -⟩ := attended.heard
  refine ⟨fun fresh => ?_, lastStatus, cwd, options, rfl⟩
  show w.jobs.untrack p.newPid = p.jobs
  rw [attended.jobs, JobTable.untrack_track fresh]

theorem Attended.untold (attended : Attended p w (.dead how)) (unknown : how.isClassic = false) :
    ∃ during, Untold p (w.afterWait p.newPid) during := by
  obtain ⟨-, -, -, during, whole, flags, all⟩ := attended.heard
  refine ⟨during, ?_, all, fun fresh => ⟨how, unknown, attended.died fresh whole⟩, ?_, ?_⟩
  · show w.machine.transcript ++ [.collected p.newPid] = _
    rw [whole]
  · show w.flags.foregroundOnly = _
    rw [flags]
    exact SignalFlags.foregroundOnly_hearAll
  · show w.flags.pending = _
    rw [flags]
    exact SignalFlags.pending_hearAll

/-- Without a terminal stop during the wait the mode and its notices are as they were. -/
theorem Untold.still {during : Transcript} (untold : Untold p s' during)
    (none_came : during.stops = 0) :
    s'.flags.foregroundOnly = p.flags.foregroundOnly ∧ s'.flags.pending = p.flags.pending := by
  have still : during.flips = false := by
    rw [Transcript.flips, none_came]
    rfl
  refine ⟨by rw [untold.mode, still, Bool.xor_false], ?_⟩
  rw [untold.pending, none_came]
  rfl

/-- An error is reported, and the reaper has its turn. -/
theorem round_of_error (failed : s.step env r = (s', .error e)) (stays : ∀ code, e ≠ .exit code) :
    s.round env r = ((s'.report e).afterLine, none) := by
  rw [round_eq]
  rw [failed]
  split <;> rename_i same
  · cases same
  · cases same
    exact absurd rfl (stays _)
  · cases same
    rfl
  · cases same

/-- If a line ends in an error, then since it was taken the job table, the last status and the
working directory are as they were, and the shell waits for no child. Nothing at all has changed, no
child has been made and no file touched, unless the end of a foreground child could not be told; then
the mode and its notices have followed the signals that came during the wait. The loop goes on with
the next line. Between two lines the shell is never waiting (`Reaches.steady`), so `idle` holds in
every session that a run comes to. -/
theorem failed_line_keeps_state (idle : s.flags.waiting = false)
    (failed : s.step env r = (s', .error e)) (stays : ∀ code, e ≠ .exit code) :
    ∃ piece, r.piece = some piece ∧
      let p := (s.prompted r.waits).record (.taken piece)
      Kept p s' ∧
      (s' = p ∨ e = .system .invalidArgument ∧ ∃ during, Untold p s' during ∧
        (during.stops = 0 → s'.flags.foregroundOnly = p.flags.foregroundOnly ∧
          s'.flags.pending = p.flags.pending)) ∧
      (∀ rs, s.listen env (r :: rs) = (s'.report e).afterLine.listen env rs) ∧
      ∀ (before : Session) rs, before.supply r = (s, true) →
        before.listenShared env (r :: rs) = (s'.report e).afterLine.listenShared env rs := by
  have round := round_of_error failed stays
  rcases answered_step idle env r with ⟨-, ended⟩ | ⟨piece, taken, answered⟩
  · rw [failed] at ended
    cases ended
    exact absurd rfl (stays 0)
  refine ⟨piece, taken, ?_⟩
  intro p
  have goes_on : ∀ rs, s.listen env (r :: rs) = (s'.report e).afterLine.listen env rs := by
    intro rs
    rw [listen, round]
  have goes_on' : ∀ (before : Session) rs, before.supply r = (s, true) →
      before.listenShared env (r :: rs) = (s'.report e).afterLine.listenShared env rs := by
    intro before rs supplied
    rw [listenShared, supplied]
    dsimp only
    rw [round]
  rw [failed] at answered
  rcases answered.of_error with rfl | ⟨rfl, w, how, unknown, attended, rfl⟩
  · have waiting : p.flags.waiting = false := (prompted_of_idle idle r.waits).waiting.trans idle
    exact ⟨⟨fun _ => rfl, rfl, rfl, rfl, waiting⟩, .inl rfl, goes_on, goes_on'⟩
  · obtain ⟨during, untold⟩ := attended.untold unknown
    exact ⟨attended.kept, .inr ⟨rfl, during, untold, untold.still⟩, goes_on, goes_on'⟩

/-- A foreground child dies of a signal that a wait cannot tell, while a job is in the table. -/
theorem failed_line_keeps_state_of_untold_end :
    let s := (memoryShell 2).rounds memoryEnvironment [lineAfter "hold &" []]
    let r : Reading := { lineAfter "killself 34" [] with meanwhile := [.signal .terminalStop] }
    let s' := (s.step memoryEnvironment r).1
    s.flags.waiting = false ∧
      s.step memoryEnvironment r = (s', .error (.system .invalidArgument)) ∧
      s'.jobs.toList = [1001] ∧ s'.flags.waiting = false ∧ s'.flags.foregroundOnly = true ∧
      s'.flags.pending = [.entered] ∧
      ∃ piece, r.piece = some piece ∧ Kept ((s.prompted r.waits).record (.taken piece)) s' := by
  intro s r s'
  have idle : s.flags.waiting = false := by decide +kernel
  have failed : s.step memoryEnvironment r = (s', .error (.system .invalidArgument)) :=
    Prod.ext rfl (by decide +kernel)
  obtain ⟨piece, taken, kept, -⟩ := failed_line_keeps_state idle failed (by simp)
  exact ⟨idle, failed, by decide +kernel, kept.idle, by decide +kernel, by decide +kernel, piece,
    taken, kept⟩

end JobShell.Session
