import JobShell.Proofs.Moments

/-!
# No death is forgotten

The shell looks for dead children only if it has been told of one, and it forgets that it has been
told before it looks. So a death that comes between the test of the flag and the drain, or between two
looks of one drain, sets the flag again, and one that the drain does not see is left for the next one.

* `Moves.sound`: what every move keeps: outside the drain, the flag is set while there is a dead
  child, unless the drain is about to start.
* `Moves.owed`: a dead child is collected before the loop has come past the reaper once more.
* `collects_round`: the pass that ends a round of the program has collected every child that has died
  until then, whatever happens in between.
* `deaths_are_never_forgotten`: all this, along every path and in every run.
-/

namespace JobShell

namespace Session

variable {s s' : Session} {pid q : Pid} {how : Termination} {point : Point}

/-! ## What an action does to the dead -/

/-- Between `s` and `s'` no child has been made or collected, a dead child has stayed dead, and the
shell has been told of each death. -/
structure Stirs (s s' : Session) : Prop where
  pids : s'.pids = s.pids
  nextPid : s'.newPid = s.newPid
  transcript : s.machine.transcript.Extends (fun _ => True) s'.machine.transcript
  childEnded : s.flags.childEnded = true → s'.flags.childEnded = true
  stays : ∀ pid how, s.stateOf pid = some (.dead how) → s'.stateOf pid = some (.dead how)
  told : ∀ pid how, s'.stateOf pid = some (.dead how) → s.stateOf pid = some (.dead how) ∨
    s'.flags.childEnded = true ∧ .died pid how ∈ s'.machine.transcript

/-- What leaves the children alone stirs nothing. -/
theorem stirs_of_children (children : s'.machine.children = s.machine.children)
    (nextPid : s'.newPid = s.newPid)
    (transcript : s.machine.transcript.Extends (fun _ => True) s'.machine.transcript)
    (childEnded : s.flags.childEnded = true → s'.flags.childEnded = true) : Stirs s s' := by
  have states : ∀ pid, s'.stateOf pid = s.stateOf pid := fun pid => by
    rw [stateOf, children, stateOf]
  refine ⟨by rw [pids, children, pids], nextPid, transcript, childEnded, fun pid how dead => ?_,
    fun pid how dead => .inl ?_⟩
  · rw [states, dead]
  · rw [← states, dead]

/-- Events from outside leave the dead where they are, and tell of the new ones. -/
theorem Outside.stirs (h : Outside s s') : Stirs s s' where
  pids := h.pids
  nextPid := h.nextPid
  transcript := h.transcript.mono fun _ _ => trivial
  childEnded := h.childEnded
  stays pid how dead := by
    have fate := h.fate pid
    rw [dead] at fate
    generalize s'.historyOf pid = after, s'.stateOf pid = state at fate
    cases fate with
    | same => rfl
    | altered alive _ => exact absurd rfl (alive how)
    | died alive => exact absurd rfl (alive how)
  told pid how dead := by
    rcases h.told pid how dead with earlier | flag
    · exact .inl earlier
    · have fate := h.fate pid
      rw [dead] at fate
      generalize before : s.stateOf pid = state, after : s'.historyOf pid = history at fate
      cases fate with
      | same => exact .inl rfl
      | altered _ alive => exact absurd rfl (alive how)
      | died _ =>
        have here : .died pid how ∈ s'.historyOf pid := by simp [after]
        exact .inr ⟨flag, (mem_historyOf.1 here).1⟩

theorem Happens.stirs (h : Happens s s') : Stirs s s' := by
  cases h with
  | event event => exact (outside_apply s event).stirs
  | files files =>
    obtain ⟨tree, opened, written, rfl, -⟩ := files
    exact stirs_of_children rfl rfl ⟨written, rfl, fun _ _ => trivial⟩ id
  | @changed pid change keeps final =>
    obtain ⟨-, -, nextPid, flag⟩ := changeChild_frame s pid change
    cases found : s.machine.children.find? pid with
    | none =>
      have same : s.changeChild pid change = s := by rw [changeChild, found]
      rw [same]
      exact stirs_of_children rfl rfl (.refl _ _) id
    | some c =>
      have states := stateOf_changeChild keeps found
      have grown : (s.changeChild pid change).machine.transcript = _ := transcript_changeChild found
      refine ⟨pids_changeChild keeps, nextPid, ⟨_, grown, fun _ _ => trivial⟩, flag,
        fun q how dead => ?_, fun q how dead => ?_⟩
      · by_cases same : q = pid
        · subst same
          exact final how dead
        · rw [states, if_neg same, dead]
      · by_cases same : q = pid
        · subst same
          rw [states, if_pos rfl] at dead
          have state : (change c).state = .dead how := Option.some.inj dead
          -- The shell is told of a change of state only, but a child in its old state was dead before.
          by_cases kept : (change c).state = c.state
          · left
            rw [stateOf, found, Option.map_some, ← kept, state]
          · right
            refine ⟨childEnded_changeChild found kept, ?_⟩
            rw [state] at grown kept
            rw [grown, news, if_neg kept]
            simp
        · rw [states, if_neg same] at dead
          exact .inl dead

/-- What the shell does of its own makes a child, or collects a dead one, or leaves the children
alone. -/
theorem Own.effect (h : Own s point s') :
    Stirs s s' ∨ (∃ own background, s' = (s.addChild own background).1) ∨
      ∃ pid how, s.stateOf pid = some (.dead how) ∧ s' = s.collect pid := by
  have alone : ∀ t : Session, t.machine.children = s.machine.children → t.newPid = s.newPid →
      s.machine.transcript.Extends (fun _ => True) t.machine.transcript →
      (s.flags.childEnded = true → t.flags.childEnded = true) → Stirs s t :=
    fun _ => stirs_of_children
  cases h with
  | forked own background => exact .inr (.inl ⟨own, background, rfl⟩)
  | waited dead _ => exact .inr (.inr ⟨_, _, dead, rfl⟩)
  | reaped dead _ => exact .inr (.inr ⟨_, _, dead, rfl⟩)
  | ended dead => exact .inr (.inr ⟨_, _, dead, rfl⟩)
  | said message => exact .inl (alone _ rfl rfl (.single trivial) id)
  | awaiting => exact .inl (alone _ rfl rfl (.single trivial) id)
  | took piece => exact .inl (alone _ rfl rfl (.single trivial) id)
  | reported pid how => exact .inl (alone _ rfl rfl (.single trivial) id)
  | sent pid n => exact .inl (alone _ rfl rfl (.single trivial) id)
  | tookNotices => exact .inl (alone _ rfl rfl (.refl _ _) id)
  | waiting waiting => exact .inl (alone _ rfl rfl (.refl _ _) id)
  | moved cwd => exact .inl (alone _ rfl rfl (.refl _ _) id)
  | tracked pid => exact .inl (alone _ rfl rfl (.refl _ _) id)
  | untracked _ pid => exact .inl (alone _ rfl rfl (.refl _ _) id)
  | noted how => exact .inl (alone _ rfl rfl (.refl _ _) id)

/-- A child that is dead when another one has been made was dead before. -/
theorem dead_of_addChild {own : Dispositions} {background : Bool} (fresh : s.newPid ∉ s.pids)
    (dead : (s.addChild own background).1.stateOf pid = some (.dead how)) :
    s.stateOf pid = some (.dead how) := by
  rw [stateOf_addChild own fresh] at dead
  split at dead
  · cases dead
  · exact dead

/-- A child that is dead when another one has been collected was dead before. -/
theorem dead_of_collect (dead : (s.collect q).stateOf pid = some (.dead how)) :
    s.stateOf pid = some (.dead how) := by
  rw [stateOf_collect] at dead
  split at dead
  · cases dead
  · exact dead

/-! ## What every move keeps -/

/-- Process ids are not given twice, and each death is in the transcript. -/
structure Told (s : Session) : Prop where
  below : ∀ pid ∈ s.pids, pid < s.newPid
  died : ∀ pid how, s.stateOf pid = some (.dead how) → .died pid how ∈ s.machine.transcript

theorem Told.fresh (told : s.Told) : s.newPid ∉ s.pids :=
  fun member => Int.lt_irrefl _ (told.below _ member)

/-- Each death is still in the transcript after an action that makes and collects nobody. -/
theorem Told.stirs (told : s.Told) (h : Stirs s s') : s'.Told where
  below pid member := by
    rw [h.pids] at member
    rw [h.nextPid]
    exact told.below pid member
  died pid how dead := by
    rcases h.told pid how dead with earlier | ⟨-, here⟩
    · exact h.transcript.subset (told.died pid how earlier)
    · exact here

/-- A child that is made takes a process id below the next one. -/
theorem Told.addChild (told : s.Told) (own : Dispositions) (background : Bool) :
    (s.addChild own background).1.Told where
  below pid member := by
    have grown : (s.addChild own background).1.pids = s.pids ++ [s.newPid] := List.map_append
    have parts : pid ∈ s.pids ++ [s.newPid] := by rwa [grown] at member
    show pid < s.newPid + 1
    rcases List.mem_append.1 parts with earlier | new
    · exact Int.lt_trans (told.below pid earlier) (Int.lt_succ _)
    · rw [List.mem_singleton.1 new]
      exact Int.lt_succ _
  died pid how dead :=
    List.mem_append_left _ (told.died pid how (dead_of_addChild told.fresh dead))

theorem Told.collect (told : s.Told) (q : Pid) : (s.collect q).Told where
  below pid member := by
    rw [pids_collect] at member
    exact told.below pid (List.mem_filter.1 member).1
  died pid how dead := List.mem_append_left _ (told.died pid how (dead_of_collect dead))

end Session

open Session

variable {m m' : Moment} {pid : Pid}

/-- Outside the drain, while there is a dead child, the shell has been told of one, or the drain is
about to start. -/
def Moment.Alert (m : Moment) : Prop :=
  m.session.machine.transcript.Classic → m.point ≠ .draining →
    ∀ pid how, m.session.stateOf pid = some (.dead how) →
      m.session.flags.childEnded = true ∨ m.point = .roused

/-- A moment as they come on a path from the start. -/
structure Moment.Sound (m : Moment) : Prop where
  told : m.session.Told
  alert : m.Alert

/-- No move takes back what has been told. -/
theorem Moves.extends (h : Moves m m') :
    m.session.machine.transcript.Extends (fun _ => True) m'.session.machine.transcript := by
  cases h with
  | happens h => exact h.stirs.transcript
  | own h =>
    rcases h.effect with stirs | ⟨own, background, rfl⟩ | ⟨pid, how, -, rfl⟩
    · exact stirs.transcript
    · exact .single trivial
    · exact .single trivial
  | cut _ _ => exact .single trivial
  | _ => exact .refl _ _

/-- Deaths from outside leave a moment sound, since the shell is told of each. -/
theorem Moment.Sound.stirs {point : Point} {n : Nat} {s s' : Session}
    (sound : Moment.Sound ⟨point, n, s⟩) (h : Stirs s s') : Moment.Sound ⟨point, n, s'⟩ := by
  refine ⟨sound.told.stirs h, fun classic outside pid how dead => ?_⟩
  rcases h.told pid how dead with earlier | ⟨flag, -⟩
  · have alert := sound.alert (h.transcript.classic classic) outside pid how earlier
    exact alert.imp_left h.childEnded
  · exact .inl flag

/-- Nothing is lost where the shell only goes on to another point, unless the flag has been taken. -/
theorem Moment.Sound.elsewhere {point point' : Point} {n k : Nat} {s : Session}
    (sound : Moment.Sound ⟨point, n, s⟩) (outside : point ≠ .draining) (untaken : point ≠ .roused) :
    Moment.Sound ⟨point', k, s⟩ := by
  refine ⟨sound.told, fun classic _ pid how dead => .inl ?_⟩
  exact (sound.alert classic outside pid how dead).resolve_right untaken

/-- The step lemma: deaths set the flag, only the test clears it, and the drain ends with no dead
child left. -/
theorem Moves.sound (h : Moves m m') (sound : m.Sound) : m'.Sound := by
  cases h with
  | happens h => exact sound.stirs h.stirs
  | @own point n s s' h =>
    rcases h.effect with stirs | ⟨own, background, rfl⟩ | ⟨q, how', -, rfl⟩
    · exact sound.stirs stirs
    · refine ⟨sound.told.addChild own background, fun classic outside pid how dead => ?_⟩
      have earlier : s.stateOf pid = some (.dead how) := dead_of_addChild sound.told.fresh dead
      exact sound.alert (Transcript.Classic.of_append classic) outside pid how earlier
    · refine ⟨sound.told.collect q, fun classic outside pid how dead => ?_⟩
      have earlier : s.stateOf pid = some (.dead how) := dead_of_collect dead
      exact sound.alert (Transcript.Classic.of_append classic) outside pid how earlier
  | finished => exact sound.elsewhere Point.noConfusion Point.noConfusion
  | calm _ => exact sound.elsewhere Point.noConfusion Point.noConfusion
  | roused _ => exact ⟨⟨sound.told.below, sound.told.died⟩, fun _ _ _ _ _ => .inr rfl⟩
  | started => exact ⟨sound.told, fun _ outside => absurd rfl outside⟩
  | swept none_dead => exact ⟨sound.told, fun _ _ pid how dead => absurd dead (none_dead pid how)⟩
  | @cut n s q how' dead' unknown =>
    refine ⟨sound.told.collect q, fun classic _ _ _ _ => ?_⟩
    have known := (Transcript.Classic.of_append classic).isClassic (sound.told.died q how' dead')
    rw [unknown] at known
    cases known
  | left => exact sound.elsewhere Point.noConfusion Point.noConfusion

/-- The invariant holds along every path, by induction over its moves. -/
theorem Path.sound (path : Path m m') (sound : m.Sound) : m'.Sound := by
  induction path with
  | refl => exact sound
  | tail _ move ih => exact move.sound ih

/-! ## What is owed to a dead child -/

/-- A child has been collected, for good. -/
structure Moment.Gone (m : Moment) (pid : Pid) : Prop where
  below : pid < m.session.newPid
  absent : m.session.stateOf pid = none
  collected : .collected pid ∈ m.session.machine.transcript

/-- A child that was dead when the loop had come past the reaper `n` times has been collected, or is
still dead and the loop has not come past the reaper again. -/
inductive Moment.Owed (m : Moment) (pid : Pid) (n : Nat) : Prop
  | gone : m.Gone pid → Owed m pid n
  | dead {how : Termination} : m.passes = n → m.session.stateOf pid = some (.dead how) → Owed m pid n

theorem Moment.Gone.stirs {point : Point} {n : Nat} {s s' : Session}
    (gone : Moment.Gone ⟨point, n, s⟩ pid) (h : Stirs s s') : Moment.Gone ⟨point, n, s'⟩ pid := by
  refine ⟨?_, ?_, h.transcript.subset gone.collected⟩
  · show pid < s'.newPid
    rw [h.nextPid]
    exact gone.below
  · rw [stateOf_eq_none_iff, h.pids, ← stateOf_eq_none_iff]
    exact gone.absent

/-- A process id that is gone is not given again. -/
theorem Moment.Gone.addChild {point : Point} {n : Nat} {s : Session}
    (gone : Moment.Gone ⟨point, n, s⟩ pid) (told : s.Told) (own : Dispositions)
    (background : Bool) : Moment.Gone ⟨point, n, (s.addChild own background).1⟩ pid := by
  refine ⟨Int.lt_trans gone.below (Int.lt_succ _), ?_, List.mem_append_left _ gone.collected⟩
  rw [stateOf_addChild own told.fresh, if_neg (Int.ne_of_lt gone.below)]
  exact gone.absent

theorem Moment.Gone.collect {point : Point} {n k : Nat} {point' : Point} {s : Session}
    (gone : Moment.Gone ⟨point, n, s⟩ pid) (q : Pid) : Moment.Gone ⟨point', k, s.collect q⟩ pid := by
  refine ⟨gone.below, ?_, List.mem_append_left _ gone.collected⟩
  rw [stateOf_collect, gone.absent, ite_self]

/-- The step lemma: a dead child is collected, or stays dead; and the loop does not come past the
reaper while there is one. -/
theorem Moves.owed {n : Nat} (h : Moves m m') (sound : m.Sound) (owed : m.Owed pid n)
    (classic : m'.session.machine.transcript.Classic) : m'.Owed pid n := by
  have earlier : m.session.machine.transcript.Classic := h.extends.classic classic
  cases owed with
  | gone gone =>
    refine .gone ?_
    cases h with
    | happens h => exact gone.stirs h.stirs
    | own h =>
      rcases h.effect with stirs | ⟨own, background, rfl⟩ | ⟨q, how', -, rfl⟩
      · exact gone.stirs stirs
      · exact gone.addChild sound.told own background
      · exact gone.collect q
    | @cut _ _ q _ _ _ => exact gone.collect q
    | _ => exact ⟨gone.below, gone.absent, gone.collected⟩
  | @dead how same dead =>
    cases h with
    | happens h => exact .dead same (h.stirs.stays pid how dead)
    | @own point _ s s' h =>
      have below : pid < s.newPid := sound.told.below pid (mem_pids_iff.2 ⟨_, dead⟩)
      rcases h.effect with stirs | ⟨own, background, rfl⟩ | ⟨q, how', -, rfl⟩
      · exact .dead same (stirs.stays pid how dead)
      · have states : (s.addChild own background).1.stateOf pid = _ :=
          stateOf_addChild own sound.told.fresh pid
        exact .dead same ((states.trans (if_neg (Int.ne_of_lt below))).trans dead)
      · by_cases here : pid = q
        · subst here
          refine .gone ⟨below, ?_, List.mem_append_right _ List.mem_cons_self⟩
          rw [stateOf_collect, if_pos rfl]
        · exact .dead same (((stateOf_collect s q pid).trans (if_neg here)).trans dead)
    | finished => exact .dead same dead
    | calm unset =>
      -- The flag was set, for there was a dead child at the test.
      rcases sound.alert earlier (by simp) pid how dead with set | roused
      · rw [unset] at set
        cases set
      · cases roused
    | roused _ => exact .dead same dead
    | started => exact .dead same dead
    | swept none_dead => exact absurd dead (none_dead pid how)
    | @cut _ _ q how' dead' unknown =>
      have known := earlier.isClassic (sound.told.died q how' dead')
      rw [unknown] at known
      cases known
    | left => exact .dead same dead

/-- A child that is dead at the start of a path has been collected at its end, or the loop has not
come past the reaper in between. -/
theorem Path.owed {n : Nat} (path : Path m m') (sound : m.Sound) (owed : m.Owed pid n)
    (classic : m'.session.machine.transcript.Classic) : m'.Owed pid n := by
  induction path with
  | refl => exact owed
  | @tail b c path move ih =>
    have earlier := move.extends.classic classic
    exact move.owed (Path.sound path sound) (ih earlier) classic

/-! ## A pass of the program -/

namespace Session

variable {env : Environment} {s s' start t : Session} {r : Session × Outcome} {how : Termination}

/-- What a pass of the reaper comes to while things happen between its turns. -/
inductive Drained : Session → Session × Outcome → Prop
  | idle {s now : Session} : Outside s now → now.machine.children.ready? = none → Drained s (now, .ok)
  | lost {s now : Session} {pid : Pid} {how : Termination} : Outside s now →
    now.machine.children.ready? = some (pid, how) → how.isClassic = false →
    Drained s (now.collect pid, .error (.system .invalidArgument))
  | next {s now : Session} {pid : Pid} {how : Termination} {r : Session × Outcome} : Outside s now →
    now.machine.children.ready? = some (pid, how) → how.isClassic = true →
    Drained (now.dismiss pid how) r → Drained s r

/-- The drain of the program is such a pass, whatever happens between its turns. -/
theorem drained_drain (between : List (List Event)) (s : Session) : Drained s (s.drain between) := by
  let now := s.applyAll (between.head?.getD [])
  have happened : Outside s now := outside_applyAll s _
  rw [drain_eq]
  cases ready : now.machine.children.ready? with
  | none => exact .idle happened ready
  | some found =>
    obtain ⟨pid, how⟩ := found
    have shrinks : (now.dismiss pid how).machine.children.length < s.machine.children.length := by
      rw [← s.length_children_applyAll (between.head?.getD [])]
      exact length_collect_lt ready
    dsimp only
    cases known : how.isClassic with
    | true =>
      rw [reapChild_of_isClassic known, if_pos rfl]
      exact .next happened ready known (drained_drain between.tail (now.dismiss pid how))
    | false =>
      rw [reapChild_of_not_isClassic known, if_neg Outcome.noConfusion]
      exact .lost happened ready known
termination_by s.machine.children.length

theorem Orderly.drained (orderly : s.Orderly) (h : Drained s r) : r.1.Orderly := by
  induction h with
  | idle happened _ => exact orderly.outside happened
  | lost happened ready unknown =>
    have now := orderly.outside happened
    exact now.collect (stateOf_of_ready now.distinct ready) unknown
  | next happened ready known _ ih =>
    have now := orderly.outside happened
    exact ih (now.dismiss (stateOf_of_ready now.distinct ready) known)

/-- Unless a child has died of a signal above the classic ones, a pass ends when no dead child is
left. -/
theorem Drained.none_dead (h : Drained s r) (orderly : s.Orderly)
    (classic : r.1.machine.transcript.Classic) :
    r.2 = .ok ∧ ∀ pid how, r.1.stateOf pid ≠ some (.dead how) := by
  induction h with
  | idle happened none_ready =>
    refine ⟨rfl, fun pid how dead => ?_⟩
    have found := (mem_dead_iff (orderly.outside happened).distinct).2 dead
    rw [List.head?_eq_none_iff.1 none_ready] at found
    cases found
  | lost happened ready unknown =>
    have now := orderly.outside happened
    have dead := stateOf_of_ready now.distinct ready
    have fallen := (dead ▸ now.life _).fallen_of_dead
    have died := (mem_historyOf.1 fallen.died_mem).1
    rw [classic.of_append.isClassic died] at unknown
    cases unknown
  | next happened ready known _ ih =>
    have now := orderly.outside happened
    exact ih (now.dismiss (stateOf_of_ready now.distinct ready) known) classic

/-- Every child that has died is gone from the children of an orderly session, and has been
collected, if none of them is dead. -/
theorem Orderly.collected_of_died (orderly : s.Orderly)
    (none_dead : ∀ pid how, s.stateOf pid ≠ some (.dead how)) {pid : Pid} {how : Termination}
    (died : .died pid how ∈ s.machine.transcript) :
    pid ∉ s.pids ∧ .collected pid ∈ s.machine.transcript := by
  have life := orderly.life pid
  rcases life.dead_or_collected (mem_historyOf.2 ⟨died, rfl⟩) with ⟨how', dead⟩ | ⟨gone, collected⟩
  · exact absurd dead (none_dead pid how')
  · exact ⟨stateOf_eq_none_iff.1 gone, (mem_historyOf.1 collected).1⟩

/-- A pass after a line for which the shell has been told of the dead leaves none of them. -/
theorem Alert.none_dead_afterLineOn (alert : s.Alert) (orderly : s.Orderly) (gap : List Event)
    (between : List (List Event))
    (classic : (s.afterLineOn .sound gap between).machine.transcript.Classic) :
    (s.afterLineOn .sound gap between).Orderly ∧
      ∀ pid how, (s.afterLineOn .sound gap between).stateOf pid ≠ some (.dead how) := by
  cases ended : s.flags.childEnded with
  | false =>
    rw [afterLineOn_of_calm ended] at classic ⊢
    refine ⟨orderly, fun pid how dead => ?_⟩
    rw [alert classic pid how dead] at ended
    cases ended
  | true =>
    rw [afterLineOn_of_ended ended] at classic ⊢
    have started := orderly.calm.outside (outside_applyAll s.calm gap)
    have drained := drained_drain between (s.calm.applyAll gap)
    have orderly' := started.drained drained
    have none_dead := drained.none_dead started
    generalize (s.calm.applyAll gap).drain between = result at classic orderly' none_dead
    obtain ⟨after, outcome⟩ := result
    cases outcome with
    | ok => exact ⟨orderly', (none_dead classic).2⟩
    | error e => cases (none_dead classic.of_append).1
    | stuck pid => cases (none_dead classic).1

/-- What a round after which the loop goes on does about deaths: its line, done in `t`, takes the
loop to the test of the flag, and if there is a dead child then, the flag is set. The pass after it
comes past the reaper once, whatever happens before it starts and between its turns, and after it
every child that has died has been collected. -/
structure Collects (n : Nat) (s t : Session) : Prop where
  line : Path ⟨.line, n, s⟩ ⟨.done, n, t⟩
  flag : t.machine.transcript.Classic → ∀ pid how, t.stateOf pid = some (.dead how) →
    t.flags.childEnded = true
  pass : ∀ gap between, Path ⟨.done, n, t⟩ ⟨.line, n + 1, t.afterLineOn .sound gap between⟩
  collected : ∀ gap between, (t.afterLineOn .sound gap between).machine.transcript.Classic →
    ∀ pid how, .died pid how ∈ (t.afterLineOn .sound gap between).machine.transcript →
      pid ∉ (t.afterLineOn .sound gap between).pids ∧
        .collected pid ∈ (t.afterLineOn .sound gap between).machine.transcript

/-- What a round of the program does about deaths: the path it takes, the flag, and what its pass
has collected. -/
theorem collects_round {n : Nat} {r : Reading} (orderly : s.Orderly) (swept : s.Swept)
    (goes_on : (s.round env r).2 = none) : Collects n s (s.lineDone env r) := by
  obtain ⟨line, worked⟩ := path_lineDone (n := n) orderly goes_on
  have orderly' := worked.orderly orderly
  have alert := worked.alert swept.alert
  refine ⟨line, alert, path_afterLineOn orderly'.distinct, fun gap between classic pid how died => ?_⟩
  obtain ⟨after, none_dead⟩ := alert.none_dead_afterLineOn orderly' gap between classic
  exact after.collected_of_died none_dead died

end Session

/-! ## The run -/

theorem sound_initial (options : Options) (tree : FileTree) (cwd : Place) (nextPid : Pid)
    (input : Bytes) (n : Nat) : Moment.Sound ⟨.line, n, initial options tree cwd nextPid input⟩ where
  told := ⟨fun _ member => (List.not_mem_nil member).elim, fun _ _ dead => by cases dead⟩
  alert _ _ _ _ dead := by cases dead

/-- However the deaths of children come between the actions of the shell: outside the drain, while
there is a dead child that has not been collected, the flag is set or the drain that has taken it is
about to start; and a child that is dead at some moment has been collected when the loop comes past
the reaper next. Every run comes to its prompts on such paths, and each round of it comes past the
reaper once, after which every child that has died has been collected. -/
theorem deaths_are_never_forgotten {options : Options} {tree : FileTree} {cwd : Place}
    {nextPid : Pid} {input : Bytes}
    (path : Path ⟨.line, 0, initial options tree cwd nextPid input⟩ m)
    (classic : m.session.machine.transcript.Classic) :
    (m.point ≠ .draining → ∀ pid how, m.session.stateOf pid = some (.dead how) →
      m.session.flags.childEnded = true ∨ m.point = .roused) ∧
    (∀ m' pid how, Path m m' → m'.session.machine.transcript.Classic →
      m.session.stateOf pid = some (.dead how) → m.passes < m'.passes →
        pid ∉ m'.session.pids ∧ .collected pid ∈ m'.session.machine.transcript) ∧
    ∀ env s, Reaches env (initial options tree cwd nextPid input) s →
      ∃ n, Path ⟨.line, 0, initial options tree cwd nextPid input⟩ ⟨.line, n, s⟩ ∧
        ∀ r, (s.round env r).2 = none →
          (s.round env r).1 = (s.lineDone env r).afterLineOn .sound [] [] ∧
            Collects n s (s.lineDone env r) := by
  have sound := Path.sound path (sound_initial options tree cwd nextPid input 0)
  refine ⟨fun outside pid how dead => sound.alert classic outside pid how dead,
    fun m' pid how later classic' dead passed => ?_, fun env s reach => ?_⟩
  · have owed : m.Owed pid m.passes := .dead rfl dead
    cases Path.owed later sound owed classic' with
    | gone gone => exact ⟨stateOf_eq_none_iff.1 gone.absent, gone.collected⟩
    | dead same _ => exact absurd same (Nat.ne_of_gt passed)
  · have start := orderly_initial options tree cwd nextPid input
    have swept := reach.swept start (swept_initial options tree cwd nextPid input)
    obtain ⟨n, path⟩ := reach.path start
    exact ⟨n, path, fun r goes_on => ⟨round_of_goesOn goes_on,
      collects_round (reach.orderly start) swept goes_on⟩⟩

/-- One job ends before the test of the flag, another is killed between the test and the drain: the
one pass of the program collects both. -/
theorem deaths_are_never_forgotten_before_the_drain :
    let s := (memoryShell 2).rounds memoryEnvironment [lineAfter "hold &" [], lineAfter "hold &" []]
    let m : Moment := ⟨.roused, 2, (s.apply (.finish 1 3)).calm.apply (.kill 2 9)⟩
    let m' : Moment := ⟨.line, 3, (s.apply (.finish 1 3)).afterLineOn .sound [.kill 2 9] []⟩
    Path ⟨.line, 0, memoryShell 2⟩ m ∧ Path m m' ∧
      m.session.stateOf 1001 = some (.dead (.exited 3)) ∧
      m.session.stateOf 1002 = some (.dead (.signaled 9)) ∧
      (m.session.flags.childEnded = true ∨ m.point = .roused) ∧
      (1001 ∉ m'.session.pids ∧ .collected 1001 ∈ m'.session.machine.transcript) ∧
      1002 ∉ m'.session.pids ∧ .collected 1002 ∈ m'.session.machine.transcript := by
  intro s m m'
  have orderly : (memoryShell 2).Orderly := orderly_initial _ _ _ _ _
  have first : Path ⟨.line, 0, memoryShell 2⟩
      ⟨.line, 1, ((memoryShell 2).round memoryEnvironment (lineAfter "hold &" [])).1⟩ :=
    path_round orderly (by decide +kernel)
  have reach : Reaches memoryEnvironment (memoryShell 2)
      ((memoryShell 2).round memoryEnvironment (lineAfter "hold &" [])).1 :=
    Reaches.refl.round _ (by decide +kernel)
  have both : Path ⟨.line, 0, memoryShell 2⟩ ⟨.line, 2, s⟩ :=
    first.trans (path_round (reach.orderly orderly) (by decide +kernel))
  have ended : (s.apply (.finish 1 3)).flags.childEnded = true := by decide +kernel
  have tested : Path ⟨.line, 0, memoryShell 2⟩ ⟨.roused, 2, (s.apply (.finish 1 3)).calm⟩ :=
    ((both.tail (.happens (.event _))).tail .finished).tail (.roused ended)
  have path : Path ⟨.line, 0, memoryShell 2⟩ m := tested.tail (.happens (.event _))
  have later : Path m m' := by
    show Path m ⟨.line, 3, (s.apply (.finish 1 3)).afterLineOn .sound [.kill 2 9] []⟩
    rw [afterLineOn_of_ended ended]
    exact .head .started (path_drain [] m.session (by decide +kernel))
  have one : m.session.stateOf 1001 = some (.dead (.exited 3)) := by decide +kernel
  have two : m.session.stateOf 1002 = some (.dead (.signaled 9)) := by decide +kernel
  obtain ⟨alert, collected, -⟩ := deaths_are_never_forgotten path (by decide +kernel)
  exact ⟨path, later, one, two, alert (by decide) 1001 _ one,
    collected m' 1001 _ later (by decide +kernel) one (by decide),
    collected m' 1002 _ later (by decide +kernel) two (by decide)⟩

end JobShell
