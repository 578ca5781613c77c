import JobShell.Moments
import JobShell.Proofs.Rounds

/-!
# Runs as paths of moments

A round of the loop is made of small actions, and between any two of them things can happen from
outside. Here it is shown that what the loop does is a `Path`, whatever happens in the places where
it lets something happen: while it reads, while it waits for a foreground child, before the reaper
starts, and between the children that the reaper collects.

* `path_drain`: the drain, with what happens between its looks for a dead child, is a path.
* `path_round`, `Reaches.path`: so are whole rounds, and all that comes before a prompt.
* `Ends.path`: so is what comes when the loop is over.
-/

namespace JobShell.Session

variable {env : Environment} {s s' start last : Session} {point : Point} {n : Nat}
variable {r : Reading} {c : Command} {argv : List String} {pid : Pid} {how : Termination}

theorem path_happens (h : Happens s s') : Path ⟨point, n, s⟩ ⟨point, n, s'⟩ :=
  .single (.happens h)

theorem path_own (h : Own s point s') : Path ⟨point, n, s⟩ ⟨point, n, s'⟩ :=
  .single (.own h)

/-! ## Before a line -/

theorem path_sayAll (messages : List Message) (s : Session) :
    Path ⟨.line, n, s⟩ ⟨.line, n, s.sayAll messages⟩ := by
  induction messages generalizing s with
  | nil => exact .refl
  | cons message messages ih => exact (path_own (.said message)).trans (ih _)

/-- Events happen one after the other, wherever the loop is. -/
theorem path_applyAll (events : List Event) (s : Session) :
    Path ⟨point, n, s⟩ ⟨point, n, s.applyAll events⟩ := by
  induction events generalizing s with
  | nil => exact .refl
  | cons event events ih => exact (path_happens (.event event)).trans (ih _)

/-- Up to the line there are messages, and events while the shell waits. -/
theorem path_prompted (waits : List (List Event)) (s : Session) :
    Path ⟨.line, n, s⟩ ⟨.line, n, s.prompted waits⟩ := by
  have awaited : ∀ s : Session, Path ⟨.line, n, s⟩ ⟨.line, n, waits.foldl await s⟩ := by
    induction waits with
    | nil => exact fun _ => .refl
    | cons events waits ih =>
      intro s
      exact ((path_own .awaiting).trans (path_applyAll events _)).trans (ih _)
  have shown : Path ⟨.line, n, s⟩ ⟨.line, n, s.showNotices⟩ := by
    rw [showNotices_eq]
    exact (path_own .tookNotices).trans (path_sayAll (s.flags.pending.map Message.notice) _)
  exact (shown.trans (path_own (.said _))).trans (awaited _)

/-! ## Children -/

/-- The program of a child uses files and sends signals, a move each. -/
theorem acrossRun_path (point : Point) (n : Nat) :
    AcrossRun Machine.Files fun s s' => Path ⟨point, n, s⟩ ⟨point, n, s'⟩ where
  use := Machine.acrossUse_files
  refl _ := .refl
  trans first second := first.trans second
  machine files := path_happens (.files files)
  receive _ k := path_happens (.event (.signal k))

/-- A child is made, set up, and runs its program. -/
theorem path_bear (env : Environment) (c : Command) (argv : List String) (s : Session) :
    Path ⟨.line, n, s⟩ ⟨.line, n, (bear env c argv s).1⟩ := by
  have forked : Path ⟨.line, n, s⟩
      ⟨.line, n, (s.addChild (Launch.dispositions env c) c.background).1⟩ := path_own (.forked _ _)
  exact forked.trans ((acrossRun_path .line n).runChild env c argv _)

/-- A child that has run comes to the shell's notice. -/
theorem path_settle (running : s.stateOf pid = some .running) (descriptors : Descriptors)
    (state : ChildState) : Path ⟨point, n, s⟩ ⟨point, n, s.settle pid descriptors state⟩ :=
  path_happens (.changed _ (fun _ => rfl) fun how dead => by simp [running] at dead)

/-- In the background it is announced; in the foreground events go on until it has died. -/
theorem path_carryOut (env : Environment) (c : Command) (argv : List String)
    (meanwhile : List Event) (fresh : s.Fresh) :
    Path ⟨.line, n, s⟩ ⟨.line, n, (s.carryOut env c argv meanwhile).1⟩ := by
  have made : Made c.background .running s (bear env c argv s).1 := made_bear fresh
  have born : Path ⟨.line, n, s⟩ ⟨.line, n, (bear env c argv s).1⟩ := path_bear env c argv s
  cases background : c.background with
  | true =>
    rw [carryOut_of_background background]
    have settled := born.trans (path_settle made.self (bear env c argv s).2.1
      (bear env c argv s).2.2)
    exact (settled.trans (path_own (.tracked _))).trans (path_own (.said _))
  | false =>
    rw [background] at made
    have tracked : Made false .running s ((bear env c argv s).1.track s.newPid) :=
      ⟨made.options, made.nextPid, made.pids, made.childEnded, made.transcript, made.self,
        made.history, made.fate, made.told⟩
    have running := (tracked.outside (outside_applyAll _ meanwhile)).self
    have ran := (born.trans (path_own (.tracked s.newPid))).trans (path_applyAll meanwhile _)
    have attended : Path ⟨.line, n, s⟩ ⟨.line, n, s.attend env c argv meanwhile⟩ :=
      ran.trans (path_settle running _ _)
    have made' : Made false _ s (s.attend env c argv meanwhile) := made_attend background fresh
    obtain ⟨during, grown, -⟩ := made'.transcript
    have forked : .forked s.newPid false ∈ (s.attend env c argv meanwhile).machine.transcript := by
      rw [grown]
      simp
    have noted : ∀ (t : Session) (result : Except Errno Termination),
        Path ⟨.line, n, t⟩ ⟨.line, n, (t.noteEnd result).1⟩ := by
      intro t result
      cases result with
      | error e => exact .refl
      | ok how =>
        cases how with
        | exited code => exact path_own (.noted _)
        | signaled k => exact (path_own (.said _)).trans (path_own (.noted _))
    rw [carryOut_of_foreground background, awaitForeground_eq]
    -- If the child is not found dead after the events, the shell waits for ever, and the path ends.
    split
    · rename_i how dead
      have collected := attended.trans (path_own (.waited dead forked))
      have freed := collected.trans (path_own (.untracked .line s.newPid))
      exact (freed.trans (path_own (.waiting false))).trans (noted _ _)
    · exact attended

theorem path_spawn (env : Environment) (c : Command) (meanwhile : List Event) (fresh : s.Fresh) :
    Path ⟨.line, n, s⟩ ⟨.line, n, (s.spawn env c meanwhile).1⟩ := by
  have begun : Path ⟨.line, n, s⟩ ⟨.line, n, if c.background then s else s.setWaiting true⟩ := by
    split
    · exact .refl
    · exact path_own (.waiting true)
  have fresh' : (if c.background then s else s.setWaiting true).Fresh := by
    split
    · exact fresh
    · exact fresh.outside (quiet_setWaiting s true).outside
  rw [spawn_eq]
  cases c.programArgv with
  | error e => exact .refl
  | ok argv =>
    dsimp only
    generalize (if c.background then s else s.setWaiting true) = t at begun fresh'
    split
    · exact begun.trans (path_own (.waiting false))
    · exact begun.trans (path_carryOut env c argv meanwhile fresh')

/-! ## Lines -/

theorem path_builtin (b : Builtin) (env : Environment) (args : List String) (s : Session) :
    Path ⟨.line, n, s⟩ ⟨.line, n, (b.run env args s).1⟩ := by
  have entered : ∀ path failure,
      Path ⟨.line, n, s⟩ ⟨.line, n, (Builtin.enterDirectory s path failure).1⟩ := by
    intro path failure
    unfold Builtin.enterDirectory
    split
    · exact path_own (.moved _)
    · exact .refl
  cases b with
  | changeDirectory =>
    show Path _ ⟨.line, n, (Builtin.runChangeDirectory env args s).1⟩
    unfold Builtin.runChangeDirectory
    split
    · exact entered _ _
    · exact entered _ _
    · exact .refl
  | status => exact path_own (.said _)
  | exit => exact .refl

theorem path_handlePiece (env : Environment) (piece : Bytes) (meanwhile : List Event)
    (fresh : s.Fresh) : Path ⟨.line, n, s⟩ ⟨.line, n, (s.handlePiece env piece meanwhile).1⟩ := by
  simp only [handlePiece_eq, handleLine_eq, dispatch_eq]
  split
  · exact .refl
  · split
    · exact .refl
    · split
      · exact .refl
      · split
        · exact path_builtin _ env _ s
        · exact path_spawn env _ meanwhile fresh

/-- A step is the way to the line and through it. -/
theorem path_step (env : Environment) (r : Reading) (orderly : s.Orderly) :
    Path ⟨.line, n, s⟩ ⟨.line, n, (s.step env r).1⟩ := by
  have prompted : Path ⟨.line, n, s⟩ ⟨.line, n, s.prompted r.waits⟩ := path_prompted r.waits s
  rw [step_eq]
  split
  · exact prompted
  · rename_i piece _
    have fresh := (orderly.outside (outside_taken r.waits piece s)).fresh
    exact (prompted.trans (path_own (.took piece))).trans (path_handlePiece env piece _ fresh)

/-! ## The reaper -/

/-- The session after a pass of the reaper, with its error reported. -/
def afterPass (result : Session × Outcome) : Session :=
  match result with
  | (s, .error e) => s.report e
  | (s, _) => s

/-- The drain is a path with one pass in it, whatever happens between its turns. -/
theorem path_drain (between : List (List Event)) (s : Session) (distinct : s.pids.Nodup) :
    Path ⟨.draining, n, s⟩ ⟨.line, n + 1, afterPass (s.drain between)⟩ := by
  -- The events before a look for a dead child come first; each turn then leaves one child fewer.
  let now := s.applyAll (between.head?.getD [])
  have happened : Path ⟨.draining, n, s⟩ ⟨.draining, n, now⟩ := path_applyAll _ s
  have distinct' : now.pids.Nodup := by
    rw [(outside_applyAll s _).pids]
    exact distinct
  refine happened.trans ?_
  rw [drain_eq]
  cases ready : now.machine.children.ready? with
  | none =>
    refine .single (.swept fun pid how dead => ?_)
    have found := (mem_dead_iff distinct').2 dead
    rw [List.head?_eq_none_iff.1 ready] at found
    cases found
  | some found =>
    obtain ⟨pid, how⟩ := found
    have dead : now.stateOf pid = some (.dead how) := stateOf_of_ready distinct' ready
    have shrinks : (now.dismiss pid how).machine.children.length < s.machine.children.length := by
      rw [← s.length_children_applyAll (between.head?.getD [])]
      exact length_collect_lt ready
    dsimp only
    cases known : how.isClassic with
    | true =>
      rw [reapChild_of_isClassic known, if_pos rfl]
      have collected : Path ⟨.draining, n, now⟩ ⟨.draining, n, now.collect pid⟩ :=
        path_own (.reaped dead known)
      have dismissed := (collected.trans (path_own (.reported pid how))).trans
        (path_own (.untracked .draining pid))
      exact dismissed.trans (path_drain between.tail (now.dismiss pid how)
        (nodup_pids_dismiss distinct' pid how))
    | false =>
      rw [reapChild_of_not_isClassic known, if_neg Outcome.noConfusion]
      have cut : Path ⟨.draining, n, now⟩ ⟨.line, n + 1, now.collect pid⟩ := .single (.cut dead known)
      exact cut.trans (path_own (.said _))
termination_by s.machine.children.length

theorem afterLineOn_of_calm (quiet : s.flags.childEnded = false) (gap : List Event)
    (between : List (List Event)) : s.afterLineOn .sound gap between = s := by
  rw [afterLineOn_sound, SignalFlags.takeChildEnded, quiet]

/-- With a reason the flag is taken first, so that what happens in the gap before the drain raises
it anew. -/
theorem afterLineOn_of_ended (ended : s.flags.childEnded = true) (gap : List Event)
    (between : List (List Event)) :
    s.afterLineOn .sound gap between = afterPass ((s.calm.applyAll gap).drain between) := by
  rw [afterLineOn_sound, SignalFlags.takeChildEnded, ended]
  rfl

/-- The pass after a line is a path from the test of the flag to the next prompt, whatever happens
between the test and the pass and between the looks for a dead child. -/
theorem path_afterLineOn (distinct : s.pids.Nodup) (gap : List Event)
    (between : List (List Event)) :
    Path ⟨.done, n, s⟩ ⟨.line, n + 1, s.afterLineOn .sound gap between⟩ := by
  cases ended : s.flags.childEnded with
  | false =>
    rw [afterLineOn_of_calm ended]
    exact .single (.calm ended)
  | true =>
    have distinct' : (s.calm.applyAll gap).pids.Nodup := by
      rw [(outside_applyAll s.calm gap).pids]
      exact distinct
    have pass : Path ⟨.draining, n, s.calm.applyAll gap⟩
        ⟨.line, n + 1, afterPass ((s.calm.applyAll gap).drain between)⟩ :=
      path_drain between _ distinct'
    have waited : Path ⟨.roused, n, s.calm⟩ ⟨.roused, n, s.calm.applyAll gap⟩ :=
      path_applyAll gap s.calm
    rw [afterLineOn_of_ended ended]
    exact .head (.roused ended) (waited.trans (.head .started pass))

/-! ## Runs -/

/-- A round after which the loop goes on is a line and the pass of the reaper after it. -/
theorem round_of_goesOn (goes_on : (s.round env r).2 = none) :
    (s.round env r).1 = (s.lineDone env r).afterLine := by
  rw [round_eq] at goes_on ⊢
  unfold lineDone
  split at goes_on <;> rename_i result <;> rw [result]
  · cases goes_on
  · cases goes_on

/-- All that a round does before the reaper is a path from one prompt to the test of the flag, and
keeps the session orderly. -/
theorem path_lineDone (orderly : s.Orderly) (goes_on : (s.round env r).2 = none) :
    Path ⟨.line, n, s⟩ ⟨.done, n, s.lineDone env r⟩ ∧ Worked s (s.lineDone env r) := by
  have step : Path ⟨.line, n, s⟩ ⟨.line, n, (s.step env r).1⟩ := path_step env r orderly
  have worked : (∀ pid, (s.step env r).2 ≠ .stuck pid) → Worked s (s.step env r).1 :=
    worked_step orderly
  rw [round_eq] at goes_on
  unfold lineDone
  split at goes_on <;> rename_i result <;> rw [result] at step worked ⊢
  · exact ⟨step.tail .finished, worked (by simp)⟩
  · cases goes_on
  · rename_i s' e _
    have reported : Path ⟨.line, n, s⟩ ⟨.line, n, s'.report e⟩ :=
      step.trans (path_own (.said (.failure e)))
    exact ⟨reported.tail .finished, (worked (by simp)).outside (quiet_report s' e).outside⟩
  · cases goes_on

/-- A round comes past the reaper once. -/
theorem path_round (orderly : s.Orderly) (goes_on : (s.round env r).2 = none) :
    Path ⟨.line, n, s⟩ ⟨.line, n + 1, (s.round env r).1⟩ := by
  obtain ⟨line, worked⟩ := path_lineDone (n := n) orderly goes_on
  rw [round_of_goesOn goes_on]
  exact line.trans (path_afterLineOn (worked.orderly orderly).distinct [] [])

/-- The sessions between the rounds of a run are those of moments on a path. -/
theorem Reaches.path (reach : Reaches env start s) (orderly : start.Orderly) :
    ∃ n, Path ⟨.line, 0, start⟩ ⟨.line, n, s⟩ := by
  induction reach with
  | refl => exact ⟨0, .refl⟩
  | @supply s r _ ih =>
    obtain ⟨n, path⟩ := ih
    have read := Machine.acrossUse_files.readFrom s.machine s.descriptors standardInput
      (some (r.waits.length * Input.blockSize))
    refine ⟨n, path.trans ?_⟩
    unfold Session.supply
    split
    · exact .refl
    · exact path_happens (.files read)
  | round r earlier goes_on ih =>
    obtain ⟨n, path⟩ := ih
    exact ⟨n + 1, path.trans (path_round (earlier.orderly orderly) goes_on)⟩

/-! ## After the loop -/

/-- A job that is ended is sent its signal, dies, and is collected. -/
theorem path_endJob (s : Session) (pid : Pid) :
    Path ⟨.leaving, n, s⟩ ⟨.leaving, n, (s.endJob pid).1⟩ := by
  have final : ∀ t : Session, ∀ how, t.stateOf pid = some (.dead how) →
      (t.signalChild pid Signal.terminate).stateOf pid = some (.dead how) := by
    intro t how dead
    obtain ⟨c, found, state⟩ := Option.map_eq_some_iff.1 dead
    refine (stateOf_changeChild (Child.pid_receive _) found pid).trans ?_
    rw [if_pos rfl, Child.state_receive_of_dead _ state, state]
  have sent : Path ⟨.leaving, n, s⟩ ⟨.leaving, n, s.terminate pid⟩ :=
    (path_own (.sent pid Signal.terminate)).trans
      (path_happens (.changed _ (Child.pid_receive _) (final _)))
  unfold endJob
  split
  · exact .refl
  · dsimp only
    split
    · rename_i found
      have dead : (s.terminate pid).stateOf pid = some (.dead _) :=
        congrArg (Option.map Child.state) found
      exact sent.trans (path_own (.ended dead))
    · exact sent

theorem path_endJobs (jobs : List Pid) (s : Session) :
    Path ⟨.leaving, n, s⟩ ⟨.leaving, n, (endJobs jobs s).1⟩ := by
  induction jobs generalizing s with
  | nil => exact .refl
  | cons pid rest ih =>
    have first : Path ⟨.leaving, n, s⟩ ⟨.leaving, n, ((s.untrack pid).endJob pid).1⟩ :=
      (path_own (.untracked .leaving pid)).trans (path_endJob _ pid)
    rw [endJobs_cons]
    split
    · exact first.trans (ih _)
    · exact first

/-- So is the session in which a run ends. -/
theorem Ends.path {final : Session} {ending : Ending} (ends : Ends env s final ending)
    (orderly : s.Orderly) : ∃ point, Path ⟨.line, n, s⟩ ⟨point, n, final⟩ := by
  cases ends with
  | @left m code leaves =>
    have asked : Path ⟨.line, n, s⟩ ⟨.line, n, m⟩ := by
      cases leaves with
      | input => exact .refl
      | step r result =>
        have step : Path ⟨.line, n, s⟩ ⟨.line, n, (s.step env r).1⟩ := path_step env r orderly
        rw [result] at step
        exact step
    have gone : Path ⟨.leaving, n, m⟩ ⟨.leaving, n, (m.leave code).1⟩ := by
      unfold leave shutdown
      have ended : Path ⟨.leaving, n, m⟩ ⟨.leaving, n, (endJobs m.jobs.toList m).1⟩ :=
        path_endJobs m.jobs.toList m
      split <;> rename_i result <;> rw [result] at ended <;> exact ended
    exact ⟨.leaving, (asked.tail .left).trans gone⟩
  | stuck r result =>
    have step : Path ⟨.line, n, s⟩ ⟨.line, n, (s.step env r).1⟩ := path_step env r orderly
    rw [result] at step
    exact ⟨.line, step⟩

end JobShell.Session
