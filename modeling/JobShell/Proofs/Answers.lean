import JobShell.Proofs.Execution
import JobShell.Proofs.Hearing
import JobShell.Proofs.Parts

/-!
# What a line comes to

`Answered` lists what the handling of a line can come to, with the whole effect on the shell. A line
that is refused, or that ends in an error, leaves the shell as it was, unless a foreground child has
ended and its end cannot be told.

* `answered_handlePiece`: so it is for every piece of input.
-/

namespace JobShell

/-! ## The marker of a background command -/

namespace Command

/-- Foreground-only mode turns background commands into foreground commands. -/
theorem foregroundOnly_of_background {ctx : Context} {line : String} {c : Command}
    (parsed : parse ctx line = .ok c) (background : c.background = true) :
    ctx.foregroundOnly = false := by
  cases spoken : isCommentLine line with
  | true =>
    rw [parse, if_pos spoken] at parsed
    cases parsed
    cases background
  | false =>
    obtain ⟨parts, -, -, rfl⟩ := exists_parts_of_parse spoken parsed
    exact (background_ofParts_iff.1 background).2

end Command

/-! ## Ends of foreground children -/

/-- What the shell says of the end of a foreground child, if the end can be told. -/
def Termination.interruption (how : Termination) : Transcript :=
  match how with
  | .exited _ => []
  | .signaled n => if n ≤ Signal.maxClassic then [.said (.interrupted how)] else []

theorem eq_of_mem_interruption {how : Termination} {e : Entry} (member : e ∈ how.interruption) :
    e = .said (.interrupted how) := by
  unfold Termination.interruption at member
  split at member
  · cases member
  · split at member
    · exact List.mem_singleton.1 member
    · cases member

namespace Session

variable {env : Environment} {s w : Session} {c : Command} {argv : List String}
variable {meanwhile : List Event} {state : ChildState} {how : Termination}

/-- The end of a foreground child becomes the status, and is told if it was a signal. -/
theorem noteEnd_of_isClassic (known : how.isClassic = true) : s.noteEnd how.decode =
    ({ s with
      lastStatus := how
      machine := { s.machine with
        transcript := s.machine.transcript ++ how.interruption } }, .ok) := by
  rw [Termination.decode_of_isClassic known]
  cases how with
  | exited code => simp [noteEnd_exited, Termination.interruption]
  | signaled n =>
    have classic : n ≤ Signal.maxClassic := of_decide_eq_true known
    simp [noteEnd_signaled, Termination.interruption, classic, say, record, Machine.record]

/-- An end that cannot be told leaves the status as it is, and is an error. -/
theorem noteEnd_of_not_isClassic (unknown : how.isClassic = false) :
    s.noteEnd how.decode = (s, .error (.system .invalidArgument)) := by
  rw [Termination.decode_of_not_isClassic unknown]
  rfl

theorem interruption_of_not_isClassic (unknown : how.isClassic = false) :
    how.interruption = [] := by
  cases how with
  | exited code => rfl
  | signaled n => exact if_neg (of_decide_eq_false unknown)

/-- Only an end that can be told becomes the last status. -/
theorem noteEnd_frame (s : Session) (how : Termination) :
    (s.noteEnd how.decode).1.options = s.options ∧ (s.noteEnd how.decode).1.flags = s.flags ∧
      (s.noteEnd how.decode).1.lastStatus = (if how.isClassic then how else s.lastStatus) ∧
      (s.noteEnd how.decode).1.machine.transcript =
        s.machine.transcript ++ how.interruption := by
  cases known : how.isClassic with
  | true =>
    rw [noteEnd_of_isClassic known]
    exact ⟨rfl, rfl, rfl, rfl⟩
  | false =>
    rw [noteEnd_of_not_isClassic known, interruption_of_not_isClassic known, List.append_nil]
    exact ⟨rfl, rfl, rfl, rfl⟩

/-! ## What can come of a line -/

/-- A background child has been made and has run; it has not been announced. -/
structure Begun (s w : Session) : Prop where
  allowed : s.flags.foregroundOnly = false
  jobs : w.jobs = s.jobs
  meanwhile : ∃ own, Meanwhile (s.addChild own true).1 w

/-- A foreground child has been made and has run and is in `state`; the shell is about to wait for
it. -/
structure Attended (s w : Session) (state : ChildState) : Prop where
  jobs : w.jobs = (s.jobs.track s.newPid).1
  meanwhile : ∃ own, Meanwhile ((s.setWaiting true).addChild own false).1 w
  made : s.Fresh → Made false state (s.setWaiting true) w

/-- What a line can come to. -/
inductive Answered (s : Session) : Session × Outcome → Prop
  /-- There is nothing to do. -/
  | idle : Answered s (s, .ok)
  /-- The line is refused, or asks to leave. -/
  | refused (e : ShellError) : Answered s (s, .error e)
  | moved (cwd : Place) : Answered s ({ s with machine := { s.machine with cwd } }, .ok)
  | told : Answered s (s.say (.status s.lastStatus), .ok)
  | begun {w : Session} : Begun s w →
    Answered s ((w.track s.newPid).say (.started s.newPid), .ok)
  | awaited {w : Session} {how : Termination} : Attended s w (.dead how) →
    Answered s ((w.afterWait s.newPid).noteEnd how.decode)
  | stuck {w : Session} {state : ChildState} : Attended s w state → state.IsAlive →
    Answered s (w, .stuck s.newPid)

theorem setWaiting_eq_self {waiting : Bool} (h : s.flags.waiting = waiting) :
    s.setWaiting waiting = s := by
  subst h
  rfl

/-- A background child is begun outside foreground-only mode only. -/
theorem begun_settle (background : c.background = true)
    (allowed : s.flags.foregroundOnly = false) :
    Begun s ((bear env c argv s).1.settle s.newPid (bear env c argv s).2.1
      (bear env c argv s).2.2) where
  allowed := allowed
  jobs := (changeChild_frame _ _ _).2.1.trans jobs_bear
  meanwhile := by
    have ran : Meanwhile (s.addChild (Launch.dispositions env c) c.background).1
        (bear env c argv s).1 := meanwhile_runChild env c argv _
    rw [background] at ran
    exact ⟨Launch.dispositions env c, ran.trans (meanwhile_changeChild _ _ _)⟩

/-- A foreground child is attended to while the shell waits. -/
theorem attended_attend (foreground : c.background = false) :
    Attended s ((s.setWaiting true).attend env c argv meanwhile)
      (bear env c argv (s.setWaiting true)).2.2 where
  jobs := jobs_attend
  meanwhile := by
    have ran : Meanwhile ((s.setWaiting true).addChild (Launch.dispositions env c) c.background).1
        (bear env c argv (s.setWaiting true)).1 := meanwhile_runChild env c argv _
    rw [foreground] at ran
    have tracked : Meanwhile (bear env c argv (s.setWaiting true)).1
        ((bear env c argv (s.setWaiting true)).1.track s.newPid) :=
      ⟨rfl, rfl, rfl, [], by simp [track], rfl, by simp⟩
    exact ⟨Launch.dispositions env c, ((ran.trans tracked).trans (meanwhile_applyAll _ meanwhile)).trans
      (meanwhile_changeChild _ _ _)⟩
  made fresh := made_attend foreground (fresh.outside (quiet_setWaiting s true).outside)

/-- A command that is carried out begins a child, or has it attended to. -/
theorem answered_carryOut (env : Environment) (c : Command) (argv : List String)
    (meanwhile : List Event) (allowed : c.background = true → s.flags.foregroundOnly = false) :
    Answered s ((if c.background then s else s.setWaiting true).carryOut env c argv meanwhile) := by
  cases background : c.background with
  | true =>
    rw [if_pos rfl, carryOut_of_background background]
    exact .begun (begun_settle background (allowed background))
  | false =>
    have attended : Attended s ((s.setWaiting true).attend env c argv meanwhile)
        (bear env c argv (s.setWaiting true)).2.2 := attended_attend background
    have self : ((s.setWaiting true).attend env c argv meanwhile).stateOf
        (s.setWaiting true).newPid = some (bear env c argv (s.setWaiting true)).2.2 := stateOf_attend
    rw [if_neg Bool.false_ne_true, carryOut_of_foreground background, awaitForeground_eq, self]
    generalize (bear env c argv (s.setWaiting true)).2.2 = state at attended
    cases state with
    | running => exact .stuck attended (by simp [ChildState.IsAlive])
    | stopped pending => exact .stuck attended (by simp [ChildState.IsAlive])
    | dead how => exact .awaited attended

theorem answered_spawn (env : Environment) (c : Command) (meanwhile : List Event)
    (idle : s.flags.waiting = false)
    (allowed : c.background = true → s.flags.foregroundOnly = false) :
    Answered s (s.spawn env c meanwhile) := by
  have lowered : (if c.background then s else s.setWaiting true).setWaiting false = s := by
    split
    · exact setWaiting_eq_self idle
    · exact setWaiting_eq_self (s := s) idle
  rw [spawn_eq]
  cases c.programArgv with
  | error e => exact .refused e
  | ok argv =>
    dsimp only
    by_cases refuses : (if c.background then s else s.setWaiting true).refusesProcesses env = true
    · rw [if_pos refuses, lowered]
      exact .refused _
    · rw [if_neg refuses]
      exact answered_carryOut env c argv meanwhile allowed

theorem answered_builtin (b : Builtin) (env : Environment) (args : List String) (s : Session) :
    Answered s (b.run env args s) := by
  have entered : ∀ path failure, Answered s (Builtin.enterDirectory s path failure) := by
    intro path failure
    unfold Builtin.enterDirectory
    split
    · exact .moved _
    · exact .refused failure
  cases b with
  | changeDirectory =>
    show Answered s (Builtin.runChangeDirectory env args s)
    unfold Builtin.runChangeDirectory
    split
    · exact entered _ _
    · exact entered _ _
    · exact .refused .homeUnset
  | status => exact .told
  | exit => exact .refused _

/-- A line comes to one of these in a shell that does not wait for a foreground command. -/
theorem answered_handlePiece (env : Environment) (piece : Bytes) (meanwhile : List Event)
    (idle : s.flags.waiting = false) : Answered s (s.handlePiece env piece meanwhile) := by
  rw [handlePiece_eq]
  cases Line.accept s.options piece with
  | error e => exact .refused e
  | ok line =>
    show Answered s (s.handleLine env line meanwhile)
    rw [handleLine_eq]
    cases parsed : Command.parse (s.context env) line with
    | error e => exact .refused e
    | ok c =>
      show Answered s (s.dispatch env c meanwhile)
      rw [dispatch_eq]
      split
      · exact .idle
      · split
        · exact answered_builtin _ env c.args s
        · exact answered_spawn env c meanwhile idle fun background =>
            Command.foregroundOnly_of_background parsed background

/-- While the shell waits for a foreground child, no message of its own comes between. -/
theorem Attended.heard (attended : Attended s w state) :
    w.options = s.options ∧ w.lastStatus = s.lastStatus ∧ w.machine.cwd = s.machine.cwd ∧
      ∃ during, w.machine.transcript =
          s.machine.transcript ++ .forked s.newPid false :: during ∧
        w.flags = (s.flags.setWaiting true).hearAll during ∧
        ∀ e ∈ during, e.isMeanwhile true = true := by
  obtain ⟨own, meanwhile⟩ := attended.meanwhile
  obtain ⟨during, grown, flags, all⟩ := meanwhile.heard
  refine ⟨meanwhile.options, meanwhile.lastStatus, meanwhile.cwd, during, ?_, flags, all⟩
  rw [grown]
  simp [addChild, record, Machine.record, setWaiting]

/-- The transcript tells of the death of a foreground child before the shell waits for it. -/
theorem Attended.died {during : Transcript} (attended : Attended s w (.dead how)) (fresh : s.Fresh)
    (whole : w.machine.transcript =
      s.machine.transcript ++ .forked s.newPid false :: during) : .died s.newPid how ∈ during := by
  have history : w.historyOf s.newPid = [.forked s.newPid false, .died s.newPid how] :=
    (attended.made fresh).history
  have told : .died s.newPid how ∈ w.historyOf s.newPid := by simp [history]
  have here := (mem_historyOf.1 told).1
  rw [whole] at here
  rcases List.mem_append.1 here with early | late
  · exact absurd early (fresh.not_mem rfl)
  · simpa using late

/-- An error leaves the session as it was, unless it is that the end of a foreground child cannot be
told. -/
theorem Answered.of_error {s' : Session} {e : ShellError} (answered : Answered s (s', .error e)) :
    s' = s ∨ e = .system .invalidArgument ∧ ∃ w how, how.isClassic = false ∧
      Attended s w (.dead how) ∧ s' = w.afterWait s.newPid := by
  generalize came : (s', Outcome.error e) = result at answered
  cases answered with
  | refused e' =>
    cases came
    exact .inl rfl
  | @awaited w how attended =>
    cases known : how.isClassic with
    | true =>
      rw [noteEnd_of_isClassic known] at came
      cases came
    | false =>
      rw [noteEnd_of_not_isClassic known] at came
      cases came
      exact .inr ⟨rfl, w, how, known, attended, rfl⟩
  | _ => cases came

/-- The shell is stuck only in the wait for its new child, which is alive. -/
theorem Answered.of_stuck {s' : Session} {pid : Pid} (answered : Answered s (s', .stuck pid)) :
    pid = s.newPid ∧ ∃ state, state.IsAlive ∧ Attended s s' state := by
  generalize came : (s', Outcome.stuck pid) = result at answered
  cases answered with
  | @stuck w state attended alive =>
    cases came
    exact ⟨rfl, state, alive, attended⟩
  | @awaited w how attended =>
    cases known : how.isClassic with
    | true =>
      rw [noteEnd_of_isClassic known] at came
      cases came
    | false =>
      rw [noteEnd_of_not_isClassic known] at came
      cases came
  | _ => cases came

end Session

end JobShell
