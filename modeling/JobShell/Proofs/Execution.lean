import JobShell.Proofs.Events
import JobShell.Proofs.JobTable

/-!
# What a line does to the children

A line makes at most one child. A background child is announced, alive or dead, and takes a slot of
the job table if there is one (`Started`). A foreground child is dead, collected and out of the
table again before the line is done, and other children may have died meanwhile (`Awaited`), unless
the shell waits for it for ever.

* `handled_spawn`: to run a command in a child comes to one of these, or makes no child.
-/

namespace JobShell

/-- The entry for the death of a child, if its state says that it is dead. -/
def ChildState.deathOf (pid : Pid) : ChildState → Transcript
  | .dead how => [.died pid how]
  | _ => []

namespace Session

variable {s s' s'' : Session} {pid q : Pid} {state : ChildState} {background : Bool}

/-- The shell has not come across the next process id yet. -/
structure Fresh (s : Session) : Prop where
  history : s.historyOf s.newPid = []
  absent : s.newPid ∉ s.pids
  untracked : s.newPid ∉ s.jobs.toList

/-- Nothing has been told of the next process id. -/
theorem Fresh.not_mem {e : Entry} (fresh : s.Fresh) (tells : e.child? = some s.newPid) :
    e ∉ s.machine.transcript := by
  intro member
  have here := mem_historyOf.2 ⟨member, tells⟩
  rw [fresh.history] at here
  cases here

theorem Fresh.outside (fresh : s.Fresh) (h : Outside s s') : s'.Fresh := by
  have kept := (h.unannounced _ (fresh.not_mem rfl)).2
  refine ⟨?_, ?_, ?_⟩
  · rw [newPid, h.nextPid, kept, fresh.history]
  · rw [newPid, h.nextPid, h.pids]
    exact fresh.absent
  · rw [newPid, h.nextPid, h.jobs]
    exact fresh.untracked

/-! ## Making a child -/

/-- The session `s'` comes after `s`: a child has been made and is in `state`, unannounced; events
may have happened to the others. -/
structure Made (background : Bool) (state : ChildState) (s s' : Session) : Prop where
  options : s'.options = s.options
  nextPid : s'.newPid = s.newPid + 1
  pids : s'.pids = s.pids ++ [s.newPid]
  childEnded : s.flags.childEnded = true → s'.flags.childEnded = true
  transcript : ∃ added, s'.machine.transcript =
    s.machine.transcript ++ .forked s.newPid background :: added ∧ ∀ e ∈ added, e.isAside = true
  self : s'.stateOf s.newPid = some state
  history : s'.historyOf s.newPid = .forked s.newPid background :: state.deathOf s.newPid
  fate : ∀ q, q ≠ s.newPid → Fate q (s.historyOf q) (s.stateOf q) (s'.historyOf q) (s'.stateOf q)
  told : ∀ q how, s'.stateOf q = some (.dead how) →
    s.stateOf q = some (.dead how) ∨ s'.flags.childEnded = true

/-- A new child runs, and the others are as they were. -/
theorem stateOf_addChild (own : Dispositions) (absent : s.newPid ∉ s.pids) (q : Pid) :
    (s.addChild own background).1.stateOf q =
      if q = s.newPid then some .running else s.stateOf q := by
  have missing : s.machine.children.find? s.newPid = none := by
    have none_here := stateOf_eq_none_iff.2 absent
    rwa [stateOf, Option.map_eq_none_iff] at none_here
  show (List.find? _ (s.machine.children ++ [_])).map _ = _
  rw [List.find?_append]
  split
  · rename_i same
    rw [Children.find?] at missing
    rw [same, missing]
    simp
  · rename_i other
    have skip : (s.newPid == q) = false := by simpa using fun h : s.newPid = q => other h.symm
    rw [List.find?_cons, skip, List.find?_nil, Option.or_none]
    rfl

/-- It is told of a new child that it has been made, and nothing of the others. -/
theorem historyOf_addChild (own : Dispositions) (q : Pid) :
    (s.addChild own background).1.historyOf q =
      s.historyOf q ++ Transcript.history [.forked s.newPid background] q :=
  Transcript.history_append

theorem made_addChild (own : Dispositions) (fresh : s.Fresh) :
    Made background .running s (s.addChild own background).1 := by
  have states : ∀ q, (s.addChild own background).1.stateOf q =
      if q = s.newPid then some .running else s.stateOf q :=
    stateOf_addChild own fresh.absent
  refine ⟨rfl, rfl, List.map_append, id, ⟨[], rfl, by simp⟩, ?_, ?_, fun q other => ?_,
    fun q how dead => ?_⟩
  · rw [states, if_pos rfl]
  · rw [historyOf_addChild, fresh.history]
    simp [Transcript.history, Entry.child?, ChildState.deathOf]
  · have elsewhere : Transcript.history [.forked s.newPid background] q = [] := by
      simp [Transcript.history, Entry.child?, other.symm]
    rw [states, if_neg other, historyOf_addChild, elsewhere, List.append_nil]
    exact .same _
  · rw [states] at dead
    split at dead
    · cases dead
    · exact .inl dead

/-- What happens while the child runs does not reach it. -/
theorem Made.outside (made : Made background .running s s') (h : Outside s' s'') :
    Made background .running s s'' := by
  have silent : .said (.started s.newPid) ∉ s'.machine.transcript := by
    intro member
    have here := mem_historyOf.2 ⟨member, rfl⟩
    rw [made.history] at here
    simp [ChildState.deathOf] at here
  obtain ⟨state_kept, history_kept⟩ := h.unannounced _ silent
  obtain ⟨added, transcript, all⟩ := made.transcript
  obtain ⟨more, grown, rest⟩ := h.transcript
  exact {
    options := h.options.trans made.options
    nextPid := h.nextPid.trans made.nextPid
    pids := h.pids.trans made.pids
    childEnded := h.childEnded ∘ made.childEnded
    transcript := ⟨added ++ more, by simp [grown, transcript], fun e member =>
      (List.mem_append.1 member).elim (all e) (rest e)⟩
    self := state_kept.trans made.self
    history := history_kept.trans made.history
    fate := fun q other => (made.fate q other).trans (h.fate q)
    told := fun q how dead => by
      rcases h.told q how dead with earlier | told
      · exact (made.told q how earlier).imp_right h.childEnded
      · exact .inr told }

/-- The child comes to the state in which its program leaves it. -/
theorem Made.settled (made : Made background .running s s') (descriptors : Descriptors)
    (state : ChildState) :
    Made background state s (s'.settle s.newPid descriptors state) := by
  obtain ⟨c, found, running⟩ := Option.map_eq_some_iff.1 made.self
  obtain ⟨added, transcript, all⟩ := made.transcript
  let change : Child → Child := fun child => { child with descriptors, state }
  have frame := changeChild_frame s' s.newPid change
  have states : ∀ q, (s'.changeChild s.newPid change).stateOf q =
      if q = s.newPid then some state else s'.stateOf q :=
    stateOf_changeChild (fun _ => rfl) found
  have histories : ∀ q, (s'.changeChild s.newPid change).historyOf q =
      s'.historyOf q ++ (news s.newPid c.state state).history q :=
    historyOf_changeChild found
  have pids_kept : (s'.changeChild s.newPid change).pids = s'.pids :=
    pids_changeChild fun _ => rfl
  refine ⟨frame.1.trans made.options, frame.2.2.1.trans made.nextPid,
    pids_kept.trans made.pids, frame.2.2.2 ∘ made.childEnded,
    ⟨added ++ news s.newPid c.state state, ?_, fun e member => ?_⟩, ?_, ?_, fun q other => ?_,
    fun q how dead => ?_⟩
  · exact (transcript_changeChild found).trans (by simp [transcript])
  · exact (List.mem_append.1 member).elim (all e) (isAside_news _ _ e)
  · exact (states _).trans (if_pos rfl)
  · refine (histories _).trans ?_
    rw [made.history, history_news, running]
    cases state <;> simp [ChildState.deathOf]
  · have kept := histories q
    rw [history_news_of_ne other, List.append_nil] at kept
    rw [settle, states, if_neg other, kept]
    exact made.fate q other
  · rw [settle, states] at dead
    split at dead
    · cases dead
      exact .inr (childEnded_changeChild found (by simp [running]))
    · exact (made.told q how dead).imp_right frame.2.2.2

/-! ## What a line can come to -/

/-- The session `s'` comes after `s`: a child has been made, and it is in order that all that the
transcript tells of it and the state that it is in come to a `Life`. -/
structure Launched (s s' : Session) : Prop where
  options : s'.options = s.options
  nextPid : s'.newPid = s.newPid + 1
  childEnded : s.flags.childEnded = true → s'.flags.childEnded = true
  life : Life s.newPid (s'.historyOf s.newPid) (s'.stateOf s.newPid)
  fate : ∀ q, q ≠ s.newPid → Fate q (s.historyOf q) (s.stateOf q) (s'.historyOf q) (s'.stateOf q)
  told : ∀ q how, s'.stateOf q = some (.dead how) →
    s.stateOf q = some (.dead how) ∨ s'.flags.childEnded = true

/-- A background child has been made and announced, and has taken a free slot of the job table if
there was one. -/
structure Started (s s' : Session) : Prop extends Launched s s' where
  jobs : s'.jobs = (s.jobs.track s.newPid).1
  pids : s'.pids = s.pids ++ [s.newPid]
  transcript : ∃ added : Transcript, (∀ e ∈ added, e.isAside = true) ∧ s'.machine.transcript =
    s.machine.transcript ++ (.forked s.newPid true :: added ++ [.said (.started s.newPid)])

/-- Whether an entry may appear while a foreground child is made and waited for. -/
def IsAwaiting (pid : Pid) (e : Entry) : Prop :=
  e.isAside = true ∨ e = .forked pid false ∨ e = .collected pid

/-- A foreground child has been made and waited for. -/
structure Awaited (s s' : Session) : Prop extends Launched s s' where
  jobs : s'.jobs = s.jobs
  pids : s'.pids = s.pids
  transcript : s.machine.transcript.Extends (IsAwaiting s.newPid) s'.machine.transcript

/-- What a command, or its refusal, can come to. -/
inductive Handled (s : Session) : Session × Outcome → Prop
  | aside {s' : Session} {outcome : Outcome} : Outside s s' → Handled s (s', outcome)
  | started {s' : Session} {outcome : Outcome} : Started s s' → Handled s (s', outcome)
  | awaited {s' : Session} {outcome : Outcome} : Awaited s s' → Handled s (s', outcome)
  | stuck {s' : Session} {pid : Pid} :
    s.machine.transcript.Extends (IsAwaiting s.newPid) s'.machine.transcript →
    Handled s (s', .stuck pid)

/-! ## In the background -/

/-- A background child is tracked and announced. -/
theorem Made.started (made : Made true state s s') (jobs : s'.jobs = s.jobs) :
    Started s ((s'.track s.newPid).say (.started s.newPid)) := by
  obtain ⟨added, transcript, all⟩ := made.transcript
  have histories : ∀ q, ((s'.track s.newPid).say (.started s.newPid)).historyOf q =
      s'.historyOf q ++ Transcript.history [.said (.started s.newPid)] q :=
    fun q => Transcript.history_append
  have states : ∀ q, ((s'.track s.newPid).say (.started s.newPid)).stateOf q = s'.stateOf q :=
    fun q => rfl
  have announced : Transcript.history [.said (.started s.newPid)] s.newPid =
      [.said (.started s.newPid)] := by
    simp [Transcript.history, Entry.child?]
  refine { made with
    jobs := by rw [← jobs]; rfl
    life := ?_
    fate := fun q other => ?_
    transcript := ⟨added, all, ?_⟩ }
  · rw [histories, made.history, announced, states, made.self]
    cases state with
    | running => exact .working (by simp [ChildState.IsAlive])
    | stopped pending => exact .working (by simp [ChildState.IsAlive])
    | dead how => exact .fallen .early
  · have elsewhere : Transcript.history [.said (.started s.newPid)] q = [] := by
      simp [Transcript.history, Entry.child?, other.symm]
    rw [histories, elsewhere, List.append_nil, states]
    exact made.fate q other
  · show s'.machine.transcript ++ [_] = _
    rw [transcript]
    simp

/-! ## In the foreground -/

theorem find?_collect (cs : Children) (pid q : Pid) :
    (cs.collect pid).find? q = if q = pid then none else cs.find? q := by
  unfold Children.collect Children.find?
  rw [List.find?_filter]
  induction cs with
  | nil => simp
  | cons c cs ih =>
    rw [List.find?_cons, List.find?_cons, ih]
    by_cases same : q = pid
    · by_cases here : c.pid = pid <;> simp [same, here]
    · by_cases here : c.pid = q
      · simp [same, here]
      · have skip : (c.pid == q) = false := by simpa using here
        simp [same, skip]

theorem stateOf_collect (s : Session) (pid q : Pid) :
    (s.collect pid).stateOf q = if q = pid then none else s.stateOf q := by
  show (Children.find? (s.machine.children.collect pid) q).map _ = _
  rw [find?_collect]
  split <;> rfl

theorem pids_collect (s : Session) (pid : Pid) :
    (s.collect pid).pids = s.pids.filter (· != pid) := by
  show (s.machine.children.collect pid).map _ = _
  rw [Children.collect, pids, List.filter_map]
  rfl

/-- It is told of a collected child that it has been collected, and nothing of the others. -/
theorem historyOf_collect (s : Session) (pid q : Pid) :
    (s.collect pid).historyOf q = s.historyOf q ++ Transcript.history [.collected pid] q :=
  Transcript.history_append

/-- The session in which a dead foreground child has been collected and the wait is over. -/
def afterWait (s : Session) (pid : Pid) : Session :=
  ((s.collect pid).untrack pid).setWaiting false

/-- The wait for a foreground child, by the state in which it is found. -/
theorem awaitForeground_eq (s : Session) (pid : Pid) :
    s.awaitForeground pid = match s.stateOf pid with
      | some (.dead how) => (s.afterWait pid).noteEnd how.decode
      | _ => (s, .stuck pid) := by
  rw [awaitForeground_eq_noteEnd]
  unfold waitFor stateOf
  cases s.machine.children.find? pid with
  | none => rfl
  | some c =>
    obtain ⟨p, own, descriptors, state⟩ := c
    cases state <;> rfl

/-- What may appear while a foreground child runs. -/
theorem Made.extends (made : Made false state s s') :
    s.machine.transcript.Extends (IsAwaiting s.newPid) s'.machine.transcript := by
  obtain ⟨added, transcript, all⟩ := made.transcript
  refine ⟨_, transcript, fun e member => ?_⟩
  rcases List.mem_cons.1 member with rfl | member
  · exact .inr (.inl rfl)
  · exact .inl (all e member)

/-- A foreground child that has died is collected and leaves the job table as it was. -/
theorem Made.awaited {how : Termination} (made : Made false (.dead how) s s')
    (fresh : s.Fresh) (jobs : s'.jobs = (s.jobs.track s.newPid).1) :
    Awaited s (s'.afterWait s.newPid) := by
  have states : ∀ q, (s'.afterWait s.newPid).stateOf q =
      if q = s.newPid then none else s'.stateOf q :=
    stateOf_collect s' s.newPid
  have histories : ∀ q, (s'.afterWait s.newPid).historyOf q =
      s'.historyOf q ++ Transcript.history [.collected s.newPid] q :=
    historyOf_collect s' s.newPid
  have collected : s'.machine.transcript.Extends (IsAwaiting s.newPid)
      (s'.afterWait s.newPid).machine.transcript :=
    .single (.inr (.inr rfl))
  refine { made with
    jobs := ?_
    pids := ?_
    transcript := made.extends.trans collected
    life := ?_
    fate := fun q other => ?_
    told := fun q how' dead => ?_ }
  · rw [states, if_pos rfl, histories, made.history]
    simpa [Transcript.history, Entry.child?, ChildState.deathOf] using Life.awaited how
  · have elsewhere : Transcript.history [.collected s.newPid] q = [] := by
      simp [Transcript.history, Entry.child?, other.symm]
    rw [states, if_neg other, histories, elsewhere, List.append_nil]
    exact made.fate q other
  · rw [states] at dead
    split at dead
    · cases dead
    · exact made.told q how' dead
  · show s'.jobs.untrack s.newPid = s.jobs
    rw [jobs, JobTable.untrack_track fresh.untracked]
  · have others : s.pids.filter (· != s.newPid) = s.pids :=
      List.filter_eq_self.2 fun p member => by
        simpa using fun same : p = s.newPid => fresh.absent (same ▸ member)
    refine (pids_collect s' s.newPid).trans ?_
    rw [made.pids, List.filter_append, others]
    simp

/-- What has no bearing on the children may follow the wait. -/
theorem Awaited.quiet (awaited : Awaited s s') (quiet : Quiet s' s'') : Awaited s s'' where
  options := quiet.options.trans awaited.options
  nextPid := quiet.machine.nextPid.trans awaited.nextPid
  childEnded := quiet.childEnded ∘ awaited.childEnded
  life := by
    rw [quiet.historyOf, quiet.stateOf]
    exact awaited.life
  fate q other := by
    rw [quiet.historyOf, quiet.stateOf]
    exact awaited.fate q other
  told q how dead :=
    (awaited.told q how (quiet.stateOf q ▸ dead)).imp_right quiet.childEnded
  jobs := quiet.jobs.trans awaited.jobs
  pids := quiet.pids.trans awaited.pids
  transcript := awaited.transcript.trans (quiet.machine.transcript.mono fun _ quiet =>
    .inl (Entry.isAside_of_child? quiet))

/-- The wait for a foreground child ends with its death or never. -/
theorem Made.handled (made : Made false state s s') (fresh : s.Fresh)
    (jobs : s'.jobs = (s.jobs.track s.newPid).1) :
    Handled s (s'.awaitForeground s.newPid) := by
  rw [awaitForeground_eq, made.self]
  cases state with
  | running => exact .stuck made.extends
  | stopped pending => exact .stuck made.extends
  | dead how => exact .awaited ((made.awaited fresh jobs).quiet (quiet_noteEnd _ _))

/-! ## Commands -/

variable {env : Environment} {c : Command} {argv : List String} {meanwhile : List Event}

/-- A background command: its child is settled, tracked and announced, in this order. -/
theorem carryOut_of_background (background : c.background = true) :
    s.carryOut env c argv meanwhile =
      ((((bear env c argv s).1.settle s.newPid (bear env c argv s).2.1
        (bear env c argv s).2.2).track s.newPid).say (.started s.newPid), .ok) :=
  if_pos background

/-- A foreground command: the child is attended to, and waited for. -/
theorem carryOut_of_foreground (foreground : c.background = false) :
    s.carryOut env c argv meanwhile = (s.attend env c argv meanwhile).awaitForeground s.newPid :=
  if_neg (by simp [foreground])

theorem made_bear (fresh : s.Fresh) : Made c.background .running s (bear env c argv s).1 :=
  (made_addChild _ fresh).outside (quiet_runChild env c argv _).outside

theorem jobs_bear : (bear env c argv s).1.jobs = s.jobs :=
  (quiet_runChild env c argv _).jobs

/-- A foreground command makes one child, with events meanwhile. -/
theorem made_attend (foreground : c.background = false) (fresh : s.Fresh) :
    Made false (bear env c argv s).2.2 s (s.attend env c argv meanwhile) := by
  have made : Made c.background .running s (bear env c argv s).1 := made_bear fresh
  rw [foreground] at made
  have tracked : Made false .running s ((bear env c argv s).1.track s.newPid) :=
    ⟨made.options, made.nextPid, made.pids, made.childEnded, made.transcript, made.self,
      made.history, made.fate, made.told⟩
  exact (tracked.outside (outside_applyAll _ meanwhile)).settled _ _

/-- A foreground child is tracked while it runs. -/
theorem jobs_attend : (s.attend env c argv meanwhile).jobs = (s.jobs.track s.newPid).1 := by
  have meant := outside_applyAll ((bear env c argv s).1.track s.newPid) meanwhile
  refine (changeChild_frame _ _ _).2.1.trans (meant.jobs.trans ?_)
  show ((bear env c argv s).1.jobs.track s.newPid).1 = _
  rw [jobs_bear]

/-- Nothing that happens meanwhile makes a difference to the child. -/
theorem stateOf_attend : (s.attend env c argv meanwhile).stateOf s.newPid =
    some (bear env c argv s).2.2 := by
  have ran : (bear env c argv s).1.pids = (s.addChild (Launch.dispositions env c) c.background).1.pids :=
    (quiet_runChild env c argv _).pids
  have meant := outside_applyAll ((bear env c argv s).1.track s.newPid) meanwhile
  have added : s.newPid ∈ (s.addChild (Launch.dispositions env c) c.background).1.pids :=
    List.mem_map.2 ⟨_, List.mem_append_right _ (List.mem_singleton_self _), rfl⟩
  have there : s.newPid ∈ (((bear env c argv s).1.track s.newPid).applyAll meanwhile).pids := by
    rw [meant.pids]
    exact ran ▸ added
  obtain ⟨state, known⟩ := mem_pids_iff.1 there
  obtain ⟨child, found, -⟩ := Option.map_eq_some_iff.1 known
  let change : Child → Child := fun child =>
    { child with descriptors := (bear env c argv s).2.1, state := (bear env c argv s).2.2 }
  have keeps : ∀ child, (change child).pid = child.pid := fun _ => rfl
  exact (stateOf_changeChild keeps found _).trans (if_pos rfl)

/-- A command that is carried out comes to one of the four. -/
theorem handled_carryOut (env : Environment) (c : Command) (argv : List String)
    (meanwhile : List Event) (fresh : s.Fresh) :
    Handled s (s.carryOut env c argv meanwhile) := by
  cases background : c.background with
  | true =>
    have made : Made c.background .running s (bear env c argv s).1 := made_bear fresh
    rw [background] at made
    rw [carryOut_of_background background]
    refine .started ((made.settled _ _).started ?_)
    exact (changeChild_frame _ _ _).2.1.trans jobs_bear
  | false =>
    rw [carryOut_of_foreground background]
    exact (made_attend background fresh).handled fresh jobs_attend

/-- To begin a wait makes no difference to what comes of the command. -/
theorem Handled.of_waiting {r : Session × Outcome} (h : Handled (s.setWaiting true) r) :
    Handled s r := by
  cases h with
  | aside h => exact .aside ((quiet_setWaiting s true).outside.trans h)
  | started h =>
    exact .started ⟨⟨h.options, h.nextPid, h.childEnded, h.life, h.fate, h.told⟩, h.jobs, h.pids,
      h.transcript⟩
  | awaited h =>
    exact .awaited ⟨⟨h.options, h.nextPid, h.childEnded, h.life, h.fate, h.told⟩, h.jobs, h.pids,
      h.transcript⟩
  | stuck h => exact .stuck h

/-- A command that may fail to get a process comes to one of the four. -/
theorem handled_spawn (env : Environment) (c : Command) (meanwhile : List Event)
    (fresh : s.Fresh) : Handled s (s.spawn env c meanwhile) := by
  rw [spawn_eq]
  cases c.programArgv with
  | error e => exact .aside (.refl s)
  | ok argv =>
    dsimp only
    cases c.background with
    | true =>
      rw [if_pos rfl]
      split
      · exact .aside (quiet_setWaiting s false).outside
      · exact handled_carryOut env c argv meanwhile fresh
    | false =>
      rw [if_neg Bool.false_ne_true]
      have waiting : Quiet s (s.setWaiting true) := quiet_setWaiting s true
      split
      · exact .aside (waiting.trans (quiet_setWaiting _ false)).outside
      · exact (handled_carryOut env c argv meanwhile (fresh.outside waiting.outside)).of_waiting

theorem handled_dispatch (env : Environment) (c : Command) (meanwhile : List Event)
    (fresh : s.Fresh) : Handled s (s.dispatch env c meanwhile) := by
  rw [dispatch_eq]
  split
  · exact .aside (.refl s)
  · split
    · exact .aside (quiet_builtin _ env c.args s).outside
    · exact handled_spawn env c meanwhile fresh

theorem handled_handlePiece (env : Environment) (piece : Bytes) (meanwhile : List Event)
    (fresh : s.Fresh) : Handled s (s.handlePiece env piece meanwhile) := by
  simp only [handlePiece_eq, handleLine_eq]
  split
  · exact .aside (.refl s)
  · split
    · exact .aside (.refl s)
    · exact handled_dispatch env _ meanwhile fresh

end Session

end JobShell
