import JobShell.Main
import JobShell.Proofs.Shutdown

/-!
# Runs of the loop

A run goes from round to round (`Reaches`) and ends in one way or the other (`Ends`). Up to the pass
of the reaper a round comes to a few things only (`Worked`), so what these keep is kept by a run.

* `listen_ends`, `runShared_ends`: whatever the shell reads, it is such a run.
* `Reaches.orderly`, `Reaches.swept`: between two rounds every session is orderly, and there are no
  dead children.
* `Continues.extends`: what has been told by the end of a line stays told to the end of the run.
-/

namespace JobShell.Session

variable {env : Environment} {s s' a m start last final : Session} {ending : Ending}
variable {r : Reading} {pid : Pid}

/-! ## A round up to the reaper -/

/-- Up to a line, all that happens to the children comes from outside. -/
theorem outside_prompted (waits : List (List Event)) (s : Session) :
    Outside s (s.prompted waits) := by
  have shown : Quiet s (s.showNotices.say (.prompt s.options.prompt)) :=
    (quiet_showNotices s).trans (quiet_say rfl)
  exact shown.outside.trans (outside_await _ waits)

/-- A step is what comes before the line, and the line. -/
theorem handled_step (orderly : s.Orderly) (env : Environment) (r : Reading) :
    ∃ a, Outside s a ∧ Handled a (s.step env r) := by
  have waited := outside_prompted r.waits s
  rw [step_eq]
  split
  · exact ⟨_, waited, .aside (.refl _)⟩
  · rename_i piece _
    have taken : Quiet (s.prompted r.waits) ((s.prompted r.waits).record (.taken piece)) :=
      quiet_record rfl
    have before := waited.trans taken.outside
    exact ⟨_, before, handled_handlePiece env piece r.meanwhile (orderly.outside before).fresh⟩

/-- What a round comes to before the reaper: nothing but events, or a child as well. -/
inductive Worked (s : Session) : Session → Prop
  | aside {m : Session} : Outside s m → Worked s m
  | started {a b m : Session} : Outside s a → Started a b → Outside b m → Worked s m
  | awaited {a b m : Session} : Outside s a → Awaited a b → Outside b m → Worked s m

/-- What happens from outside after a line belongs to the same round. -/
theorem Worked.outside (worked : Worked s m) (h : Outside m s') : Worked s s' := by
  cases worked with
  | aside first => exact .aside (first.trans h)
  | started first started after => exact .started first started (after.trans h)
  | awaited first awaited after => exact .awaited first awaited (after.trans h)

/-- A step makes at most one child, unless it waits for ever. -/
theorem worked_step (orderly : s.Orderly) (moves : ∀ pid, (s.step env r).2 ≠ .stuck pid) :
    Worked s (s.step env r).1 := by
  obtain ⟨a, before, handled⟩ := handled_step orderly env r
  generalize s.step env r = result at moves handled
  cases handled with
  | aside h => exact .aside (before.trans h)
  | started h => exact .started before h (.refl _)
  | awaited h => exact .awaited before h (.refl _)
  | stuck _ => exact absurd rfl (moves _)

/-- Whether an entry may appear in a round before the reaper, where `pid` is the process id of the
next child. -/
def IsWorking (pid : Pid) (e : Entry) : Prop :=
  e.isAside = true ∨ (∃ background, e = .forked pid background) ∨ e = .said (.started pid) ∨
    ∃ q, e = .collected q

theorem IsAwaiting.isWorking {e : Entry} (h : IsAwaiting pid e) : IsWorking pid e := by
  rcases h with aside | forked | collected
  · exact .inl aside
  · exact .inr (.inl ⟨false, forked⟩)
  · exact .inr (.inr (.inr ⟨pid, collected⟩))

theorem IsLeaving.isWorking {e : Entry} (h : IsLeaving e) : IsWorking pid e :=
  h.imp_right fun collected => .inr (.inr collected)

/-- What comes from outside may appear in any round. -/
theorem Outside.working (h : Outside s s') (pid : Pid) :
    s.machine.transcript.Extends (IsWorking pid) s'.machine.transcript :=
  h.transcript.mono fun _ => .inl

theorem Started.working (h : Started s s') :
    s.machine.transcript.Extends (IsWorking s.newPid) s'.machine.transcript := by
  obtain ⟨added, all, transcript⟩ := h.transcript
  refine ⟨_, transcript, fun e member => ?_⟩
  rcases List.mem_append.1 member with first | last
  · rcases List.mem_cons.1 first with rfl | aside
    · exact .inr (.inl ⟨true, rfl⟩)
    · exact .inl (all e aside)
  · exact .inr (.inr (.inl (List.mem_singleton.1 last)))

/-- What may appear in a round does not depend on what the round comes to. -/
theorem Worked.working (worked : Worked s m) :
    s.machine.transcript.Extends (IsWorking s.newPid) m.machine.transcript := by
  cases worked with
  | aside h => exact h.working _
  | started first started after =>
    have middle := started.working
    rw [newPid, first.nextPid] at middle
    exact ((first.working _).trans middle).trans (after.working _)
  | awaited first awaited after =>
    have middle := awaited.transcript.mono fun _ => IsAwaiting.isWorking
    rw [newPid, first.nextPid] at middle
    exact ((first.working _).trans middle).trans (after.working _)

/-- A line keeps the lives of the children in order. -/
theorem Worked.orderly (worked : Worked s m) (orderly : s.Orderly) : m.Orderly := by
  cases worked with
  | aside h => exact orderly.outside h
  | started first started after => exact ((orderly.outside first).started started).outside after
  | awaited first awaited after => exact ((orderly.outside first).awaited awaited).outside after

/-- After a line the shell has been told of every death. -/
theorem Worked.alert (worked : Worked s m) (alert : s.Alert) : m.Alert := by
  cases worked with
  | aside h => exact alert.outside h
  | started first started after =>
    exact ((alert.outside first).launched started.toLaunched started.working.classic).outside after
  | awaited first awaited after =>
    exact ((alert.outside first).launched awaited.toLaunched awaited.transcript.classic).outside
      after

/-! ## Whole rounds -/

/-- A round after which the loop goes on ends with the reaper's turn. -/
theorem worked_round (orderly : s.Orderly) (goes_on : (s.round env r).2 = none) :
    ∃ m, Worked s m ∧ (s.round env r).1 = m.afterLine := by
  have worked : (∀ pid, (s.step env r).2 ≠ .stuck pid) → Worked s (s.step env r).1 :=
    worked_step orderly
  rw [round_eq] at goes_on ⊢
  split at goes_on <;> rename_i result <;> rw [result] at worked
  · exact ⟨_, worked (by simp), rfl⟩
  · cases goes_on
  · exact ⟨_, (worked (by simp)).outside (quiet_report _ _).outside, rfl⟩
  · cases goes_on

theorem Leaves.worked {code : Int} (leaves : Leaves env s m code) (orderly : s.Orderly) :
    Worked s m := by
  cases leaves with
  | input => exact .aside (.refl s)
  | step r result =>
    have worked : (∀ pid, (s.step env r).2 ≠ .stuck pid) → Worked s (s.step env r).1 :=
      worked_step orderly
    rw [result] at worked
    exact worked (by simp)

theorem ends_round (ended : (s.round env r).2 = some ending) :
    Ends env s (s.round env r).1 ending := by
  rw [round_eq] at ended ⊢
  split at ended <;> rename_i result <;> cases ended
  · exact .left (.step r result)
  · exact .stuck r result

theorem Ends.working (ends : Ends env s final ending) (orderly : s.Orderly) :
    s.machine.transcript.Extends (IsWorking s.newPid) final.machine.transcript := by
  cases ends with
  | left leaves =>
    refine (leaves.worked orderly).working.trans ?_
    exact (extends_leave _ _).mono fun _ => IsLeaving.isWorking
  | @stuck r final pid result =>
    obtain ⟨a, before, handled⟩ := handled_step orderly env r
    rw [result] at handled
    cases handled with
    | aside h => exact (before.trans h).working _
    | started h => exact (Worked.started before h (.refl _)).working
    | awaited h => exact (Worked.awaited before h (.refl _)).working
    | stuck h =>
      have middle := h.mono fun _ => IsAwaiting.isWorking
      rw [newPid, before.nextPid] at middle
      exact (before.working _).trans middle

/-! ## Runs -/

theorem Reaches.trans (first : Reaches env start s) (second : Reaches env s last) :
    Reaches env start last := by
  induction second with
  | refl => exact first
  | supply r _ ih => exact ih.supply r
  | round r _ goes_on ih => exact ih.round r goes_on

theorem listen_ends (env : Environment) (rs : List Reading) (s : Session) :
    ∃ last, Reaches env s last ∧ Ends env last (s.listen env rs).1 (s.listen env rs).2 := by
  induction rs generalizing s with
  | nil => exact ⟨s, .refl, .left .input⟩
  | cons r rs ih =>
    rw [listen]
    split <;> rename_i next result
    · obtain ⟨last, reach, ends⟩ := ih next
      have first : Reaches env s next := by
        have here : Reaches env s (s.round env r).1 := .round r .refl (by rw [result])
        rwa [result] at here
      exact ⟨last, first.trans reach, ends⟩
    · have ends : Ends env s (s.round env r).1 _ := ends_round (by rw [result])
      rw [result] at ends
      exact ⟨s, .refl, ends⟩

theorem listenShared_ends (env : Environment) (rs : List Reading) (s : Session) :
    ∃ last, Reaches env s last ∧
      Ends env last (s.listenShared env rs).1 (s.listenShared env rs).2 := by
  induction rs generalizing s with
  | nil => exact ⟨s, .refl, .left .input⟩
  | cons r rs ih =>
    have supplied : Reaches env s (s.supply r).1 := Reaches.refl.supply r
    rw [listenShared]
    split <;> rename_i read supply <;> rw [supply] at supplied
    · obtain ⟨last, reach, ends⟩ := listen_ends env (Input.atEnd r.waits r.held r.held) read
      exact ⟨last, supplied.trans reach, ends⟩
    · split <;> rename_i next result
      · obtain ⟨last, reach, ends⟩ := ih next
        have first : Reaches env s next := by
          have here := supplied.round r (by rw [result])
          rwa [result] at here
        exact ⟨last, first.trans reach, ends⟩
      · have ends : Ends env read (read.round env r).1 _ := ends_round (by rw [result])
        rw [result] at ends
        exact ⟨read, supplied, ends⟩

theorem runShared_ends (env : Environment) (s : Session) :
    ∃ last, Reaches env s last ∧ Ends env last (s.runShared env).1 (s.runShared env).2 :=
  listenShared_ends env _ s

theorem orderly_initial (options : Options) (tree : FileTree) (cwd : Place) (nextPid : Pid)
    (input : Bytes) : (initial options tree cwd nextPid input).Orderly where
  distinct := List.nodup_nil
  life _ := .unborn
  unborn _ _ := rfl
  table := by
    show (JobTable.empty options.maxJobs).toList.Nodup
    rw [JobTable.toList_empty]
    exact List.nodup_nil
  announced pid member := by
    have empty : (initial options tree cwd nextPid input).jobs.toList = [] :=
      JobTable.toList_empty _
    rw [empty] at member
    cases member

theorem swept_initial (options : Options) (tree : FileTree) (cwd : Place) (nextPid : Pid)
    (input : Bytes) : (initial options tree cwd nextPid input).Swept := by
  intro _ pid how dead
  cases dead

/-- At every prompt the children, the transcript and the job table fit together. -/
theorem Reaches.orderly (reach : Reaches env start s) (orderly : start.Orderly) :
    s.Orderly := by
  induction reach with
  | refl => exact orderly
  | supply r _ ih => exact ih.outside (quiet_supply _ r).outside
  | round r _ goes_on ih =>
    obtain ⟨m, worked, result⟩ := worked_round ih goes_on
    rw [result]
    exact (worked.orderly ih).afterLine

/-- At every prompt all dead children have been collected, unless one has died of a signal above the
classic ones: each round ends with a pass, and no death goes untold before it. -/
theorem Reaches.swept (reach : Reaches env start s) (orderly : start.Orderly)
    (swept : start.Swept) : s.Swept := by
  induction reach with
  | refl => exact swept
  | @supply s r _ ih =>
    have quiet := quiet_supply s r
    intro classic pid how
    rw [quiet.stateOf]
    exact ih (quiet.machine.transcript.classic classic) pid how
  | round r earlier goes_on ih =>
    obtain ⟨m, worked, result⟩ := worked_round (earlier.orderly orderly) goes_on
    rw [result]
    exact (worked.alert ih.alert).swept (worked.orderly (earlier.orderly orderly))

/-- What the transcript tells is never taken back. -/
theorem Reaches.extends (reach : Reaches env start s) (orderly : start.Orderly) :
    start.machine.transcript.Extends (fun _ => True) s.machine.transcript := by
  induction reach with
  | refl => exact .refl _ _
  | supply r _ ih => exact ih.trans ((quiet_supply _ r).machine.transcript.mono fun _ _ => trivial)
  | round r earlier goes_on ih =>
    obtain ⟨m, worked, result⟩ := worked_round (earlier.orderly orderly) goes_on
    rw [result]
    exact ih.trans ((worked.working.mono fun _ _ => trivial).trans
      (extends_afterLine.mono fun _ _ => trivial))

/-- What has been told is still told at any later prompt. -/
theorem Reaches.subset (reach : Reaches env start s) (orderly : start.Orderly) {e : Entry}
    (member : e ∈ start.machine.transcript) : e ∈ s.machine.transcript :=
  (reach.extends orderly).subset member

/-- What the transcript tells of a child has come in some round. -/
theorem Reaches.exists_round (reach : Reaches env start s) {e : Entry}
    (tells : e.child? = some pid) (absent : e ∉ start.machine.transcript)
    (member : e ∈ s.machine.transcript) :
    ∃ a r, Reaches env start a ∧ (a.round env r).2 = none ∧ Reaches env (a.round env r).1 s ∧
      e ∉ a.machine.transcript ∧ e ∈ (a.round env r).1.machine.transcript := by
  induction reach with
  | refl => exact absurd member absent
  | supply r _ ih =>
    have earlier := (quiet_supply _ r).machine.transcript.mem_of_not member (by simp [tells])
    obtain ⟨a, r', before, goes_on, rest, new, here⟩ := ih earlier
    exact ⟨a, r', before, goes_on, rest.supply r, new, here⟩
  | @round s r before goes_on ih =>
    by_cases earlier : e ∈ s.machine.transcript
    · obtain ⟨a, r', before', goes_on', rest, new, here⟩ := ih earlier
      exact ⟨a, r', before', goes_on', rest.round r goes_on, new, here⟩
    · exact ⟨s, r, before, goes_on, .refl, earlier, member⟩

/-! ## What comes after a line -/

/-- What the transcript tells after a line stays in it to the end of the round. -/
theorem extends_round (env : Environment) (r : Reading) (s : Session) :
    (s.step env r).1.machine.transcript.Extends (fun _ => True)
      (s.round env r).1.machine.transcript := by
  have pass : ∀ t : Session, t.machine.transcript.Extends (fun _ => True)
      t.afterLine.machine.transcript := fun t => extends_afterLine.mono fun _ _ => trivial
  rw [round_eq]
  split <;> rename_i result <;> rw [result]
  · exact pass _
  · exact (extends_leave _ _).mono fun _ _ => trivial
  · exact .trans (.single trivial) (pass _)
  · exact .refl _ _

/-- How a run goes on, and ends, that reads `r` next. -/
inductive Continues (env : Environment) (s : Session) (r : Reading) : Session × Ending → Prop
  | ended {run : Session × Ending} : s.round env r = (run.1, some run.2) → Continues env s r run
  | goesOn {next last : Session} {run : Session × Ending} : s.round env r = (next, none) →
    Reaches env next last → Ends env last run.1 run.2 → Continues env s r run

/-- A run that has a line left goes on from it. -/
theorem continues_listen (env : Environment) (s : Session) (r : Reading) (rs : List Reading) :
    Continues env s r (s.listen env (r :: rs)) := by
  rw [listen]
  split <;> rename_i next result
  · obtain ⟨last, reach, ends⟩ := listen_ends env rs next
    exact .goesOn result reach ends
  · exact .ended result

theorem continues_listenShared {before : Session} (supplied : before.supply r = (s, true))
    (env : Environment) (rs : List Reading) :
    Continues env s r (before.listenShared env (r :: rs)) := by
  rw [listenShared, supplied]
  dsimp only
  split <;> rename_i next result
  · obtain ⟨last, reach, ends⟩ := listenShared_ends env rs next
    exact .goesOn result reach ends
  · exact .ended result

/-- All that has been told by the end of a line stays told. -/
theorem Continues.extends {run : Session × Ending} (continues : Continues env s r run)
    (orderly : s.Orderly) :
    (s.step env r).1.machine.transcript.Extends (fun _ => True) run.1.machine.transcript := by
  have first := extends_round env r s
  cases continues with
  | ended result =>
    rw [result] at first
    exact first
  | goesOn result reach ends =>
    have reached : Reaches env s (s.round env r).1 := .round r .refl (by rw [result])
    rw [result] at first reached
    have orderly' := reached.orderly orderly
    have rest := (ends.working (reach.orderly orderly')).mono fun _ _ => trivial
    exact (first.trans (reach.extends orderly')).trans rest

/-- A round that waits for ever is the last one. -/
theorem Continues.of_stuck {run : Session × Ending} (continues : Continues env s r run)
    (stuck : s.step env r = (s', .stuck pid)) : run = (s', .stuck pid) := by
  have whole : s.round env r = (s', some (.stuck pid)) := by rw [round_eq, stuck]
  cases continues with
  | ended result =>
    rw [whole] at result
    cases run
    cases result
    rfl
  | goesOn result _ _ =>
    rw [whole] at result
    cases result

/-! ## Runs over given lines -/

/-- A round for a line, with the events before it. -/
def lineAfter (text : String) (before : List Event) : Reading :=
  { waits := [before], piece := some (Text.encode text) }

/-- The session after some rounds. -/
def rounds (env : Environment) (rs : List Reading) (s : Session) : Session :=
  rs.foldl (fun s r => (s.round env r).1) s

/-- Whether the loop goes on after each of some rounds. -/
def goesOn (env : Environment) : List Reading → Session → Bool
  | [], _ => true
  | r :: rs, s => (s.round env r).2.isNone && goesOn env rs (s.round env r).1

/-- Rounds after which the loop goes on are part of a run. -/
theorem reaches_rounds {rs : List Reading} (h : goesOn env rs s = true) :
    Reaches env s (s.rounds env rs) := by
  induction rs generalizing s with
  | nil => exact .refl
  | cons r rs ih =>
    rw [goesOn, Bool.and_eq_true, Option.isNone_iff_eq_none] at h
    exact (Reaches.refl.round r h.1).trans (ih h.2)

/-- A shell on the machine in memory, before anything has happened. -/
def memoryShell (maxJobs : Nat) : Session :=
  initial { maxJobs } FileTree.system homePlace (ownPid + 1) []

end JobShell.Session
