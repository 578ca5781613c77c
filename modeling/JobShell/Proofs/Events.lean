import JobShell.Proofs.Quiet

/-!
# What happens from outside

Signals reach the shell, and background jobs end, are killed, stopped and continued, at any time.
`Outside` says what such events can do: children that have not died change their state or die, the
shell is told of each death, and a child that has not been announced is out of their reach.

* `outside_applyAll`: so it is for any events in any order.
* `stateOf_changeChild`, `transcript_changeChild`: what it does to change a child.
-/

namespace JobShell

/-! ## Views of the children -/

namespace Session

/-- What the transcript tells of the child with a process id. -/
def historyOf (s : Session) (pid : Pid) : Transcript :=
  s.machine.transcript.history pid

variable {s s' : Session} {pid q : Pid}

theorem mem_pids_of_find? {c : Child} (found : s.machine.children.find? pid = some c) :
    c.pid = pid ∧ pid ∈ s.pids := by
  have same : c.pid = pid := by simpa using List.find?_some found
  exact ⟨same, List.mem_map.2 ⟨c, List.mem_of_find?_eq_some found, same⟩⟩

/-- The process ids of children are those that have a state. -/
theorem mem_pids_iff : pid ∈ s.pids ↔ ∃ state, s.stateOf pid = some state := by
  constructor
  · intro member
    obtain ⟨c, here, same⟩ := List.mem_map.1 member
    have some_found : (List.find? (·.pid == pid) s.machine.children).isSome :=
      List.find?_isSome.2 ⟨c, here, by simpa using same⟩
    obtain ⟨found, h⟩ := Option.isSome_iff_exists.1 some_found
    exact ⟨found.state, by rw [stateOf, Children.find?, h]; rfl⟩
  · rintro ⟨state, h⟩
    obtain ⟨c, found, -⟩ := Option.map_eq_some_iff.1 h
    exact (mem_pids_of_find? found).2

theorem stateOf_eq_none_iff : s.stateOf pid = none ↔ pid ∉ s.pids := by
  rw [mem_pids_iff, not_exists, Option.eq_none_iff_forall_ne_some]

/-- The history of a child is made of the entries that are about it. -/
theorem mem_historyOf {e : Entry} :
    e ∈ s.historyOf pid ↔ e ∈ s.machine.transcript ∧ e.child? = some pid :=
  Transcript.mem_history

end Session

/-! ## Fates -/

/-- What can become of a child, as to its history and its state, while the shell does not collect
it. -/
inductive Fate (pid : Pid) (h : Transcript) :
    Option ChildState → Transcript → Option ChildState → Prop
  | same (state : Option ChildState) : Fate pid h state h state
  | altered {a b : ChildState} : a.IsAlive → b.IsAlive → Fate pid h (some a) h (some b)
  | died {a : ChildState} {how : Termination} :
    a.IsAlive → Fate pid h (some a) (h ++ [.died pid how]) (some (.dead how))

theorem Fate.trans {pid : Pid} {h h' h'' : Transcript} {a b c : Option ChildState}
    (first : Fate pid h a h' b) (second : Fate pid h' b h'' c) : Fate pid h a h'' c := by
  cases first with
  | same => exact second
  | altered before alive =>
    cases second with
    | same => exact .altered before alive
    | altered _ after => exact .altered before after
    | died _ => exact .died before
  | died before =>
    cases second with
    | same => exact .died before
    | altered dead _ => exact absurd rfl (dead _)
    | died dead => exact absurd rfl (dead _)

/-- Whether an entry tells of no child, or of the death of one. -/
def Entry.isAside : Entry → Bool
  | .died _ _ => true
  | e => e.child?.isNone

theorem Entry.isAside_of_child? {e : Entry} (h : e.child? = none) : e.isAside = true := by
  cases e with
  | died pid how => rfl
  | _ => simpa [isAside] using h

/-- The session `s'` comes after `s`, and nothing but events from outside and what has no bearing on
the children has come between. -/
structure Session.Outside (s s' : Session) : Prop where
  options : s'.options = s.options
  jobs : s'.jobs = s.jobs
  nextPid : s'.machine.nextPid = s.machine.nextPid
  pids : s'.pids = s.pids
  childEnded : s.flags.childEnded = true → s'.flags.childEnded = true
  transcript : s.machine.transcript.Extends (·.isAside = true) s'.machine.transcript
  fate : ∀ pid, Fate pid (s.historyOf pid) (s.stateOf pid) (s'.historyOf pid) (s'.stateOf pid)
  /-- The shell is told of each new death. -/
  told : ∀ pid how, s'.stateOf pid = some (.dead how) →
    s.stateOf pid = some (.dead how) ∨ s'.flags.childEnded = true
  /-- Only children that have been announced are within reach. -/
  unannounced : ∀ pid, .said (.started pid) ∉ s.machine.transcript →
    s'.stateOf pid = s.stateOf pid ∧ s'.historyOf pid = s.historyOf pid

namespace Session

variable {s s' : Session} {pid q : Pid}

theorem Quiet.stateOf (h : Quiet s s') (pid : Pid) : s'.stateOf pid = s.stateOf pid := by
  rw [Session.stateOf, h.machine.children, Session.stateOf]

theorem Quiet.pids (h : Quiet s s') : s'.pids = s.pids := by
  rw [Session.pids, h.machine.children, Session.pids]

theorem Quiet.historyOf (h : Quiet s s') (pid : Pid) : s'.historyOf pid = s.historyOf pid := by
  obtain ⟨added, same, all⟩ := h.machine.transcript
  rw [Session.historyOf, same, Transcript.history_append, Transcript.history_eq_nil all,
    List.append_nil, Session.historyOf]

/-- What has no bearing on the children is among what comes from outside. -/
theorem Quiet.outside (h : Quiet s s') : Outside s s' where
  options := h.options
  jobs := h.jobs
  nextPid := h.machine.nextPid
  pids := h.pids
  childEnded := h.childEnded
  transcript := h.machine.transcript.mono fun _ => Entry.isAside_of_child?
  fate pid := by
    rw [h.stateOf, h.historyOf]
    exact .same _
  told pid how dead := .inl (h.stateOf pid ▸ dead)
  unannounced pid _ := ⟨h.stateOf pid, h.historyOf pid⟩

theorem Outside.refl (s : Session) : Outside s s :=
  (Quiet.refl s).outside

theorem Outside.started_mem (h : Outside s s')
    (member : .said (.started pid) ∈ s'.machine.transcript) :
    .said (.started pid) ∈ s.machine.transcript :=
  h.transcript.mem_of_not member (by simp [Entry.isAside, Entry.child?])

/-- What happens from outside goes on happening from outside. -/
theorem Outside.trans {s'' : Session} (first : Outside s s') (second : Outside s' s'') :
    Outside s s'' where
  options := second.options.trans first.options
  jobs := second.jobs.trans first.jobs
  nextPid := second.nextPid.trans first.nextPid
  pids := second.pids.trans first.pids
  childEnded := second.childEnded ∘ first.childEnded
  transcript := first.transcript.trans second.transcript
  fate pid := (first.fate pid).trans (second.fate pid)
  told pid how dead := by
    rcases second.told pid how dead with earlier | told
    · exact (first.told pid how earlier).imp_right second.childEnded
    · exact .inr told
  unannounced pid absent := by
    obtain ⟨state, history⟩ := first.unannounced pid absent
    obtain ⟨state', history'⟩ := second.unannounced pid fun new => absent (first.started_mem new)
    exact ⟨state'.trans state, history'.trans history⟩

/-! ## Changing a child -/

/-- A changed child is found changed, and the others as they were. -/
theorem find?_modify {f : Child → Child} (keeps : ∀ c, (f c).pid = c.pid) (cs : Children) :
    (cs.modify pid f).find? q = if q = pid then (cs.find? pid).map f else cs.find? q := by
  unfold Children.modify Children.find?
  induction cs with
  | nil => simp
  | cons c cs ih =>
    rw [List.map_cons, List.find?_cons, List.find?_cons, List.find?_cons]
    by_cases here : c.pid = pid
    · by_cases same : q = pid
      · subst same
        simp [here, keeps]
      · have other : (c.pid == q) = false := by
          rw [here]
          simpa using fun h : pid = q => same h.symm
        rw [if_pos here, keeps, other, ih, if_neg same, if_neg same]
    · rw [if_neg here]
      by_cases same : q = pid
      · subst same
        have other : (c.pid == q) = false := by simpa using here
        rw [other, ih, if_pos rfl]
      · rw [ih, if_neg same, if_neg same]

/-- What a transcript tells of a child that gets another state. -/
def news (pid : Pid) (old new : ChildState) : Transcript :=
  if new = old then []
  else match new with
    | .dead how => [.died pid how, .received Signal.childEnded]
    | _ => [.received Signal.childEnded]

theorem isAside_news (old new : ChildState) : ∀ e ∈ news pid old new, e.isAside = true := by
  unfold news
  split
  · simp
  · split <;> simp [Entry.isAside, Entry.child?]

section Change

variable {change : Child → Child} {c : Child}

theorem children_changeChild (found : s.machine.children.find? pid = some c) :
    (s.changeChild pid change).machine.children = s.machine.children.modify pid change := by
  unfold changeChild
  rw [found]
  dsimp only
  split
  · rfl
  · rw [children_receive, children_recordDeath]

/-- The states after a child has been changed. -/
theorem stateOf_changeChild (keeps : ∀ c, (change c).pid = c.pid)
    (found : s.machine.children.find? pid = some c) (q : Pid) :
    (s.changeChild pid change).stateOf q =
      if q = pid then some (change c).state else s.stateOf q := by
  rw [stateOf, children_changeChild found, find?_modify keeps, found]
  split <;> rfl

/-- A change brings no child into being and removes none. -/
theorem pids_changeChild (keeps : ∀ c, (change c).pid = c.pid) :
    (s.changeChild pid change).pids = s.pids := by
  cases found : s.machine.children.find? pid with
  | none => rw [changeChild, found]
  | some c =>
    rw [pids, children_changeChild found, Children.modify, List.map_map]
    refine List.map_congr_left fun c _ => ?_
    rw [Function.comp_apply]
    split
    · exact keeps c
    · rfl

/-- The transcript tells the news of a changed child and nothing else. -/
theorem transcript_changeChild (found : s.machine.children.find? pid = some c) :
    (s.changeChild pid change).machine.transcript =
      s.machine.transcript ++ news pid c.state (change c).state := by
  unfold changeChild news
  rw [found]
  dsimp only
  split
  · exact (List.append_nil _).symm
  · cases (change c).state <;>
      simp [recordDeath, receive, ShellSignal.number, Session.record, Machine.record]

/-- The shell gets a SIGCHLD for each change of state. -/
theorem childEnded_changeChild (found : s.machine.children.find? pid = some c)
    (changed : (change c).state ≠ c.state) :
    (s.changeChild pid change).flags.childEnded = true := by
  unfold changeChild
  rw [found]
  dsimp only
  rw [if_neg changed]
  rfl

/-- Apart from the children, the transcript and the flag that a child has ended, nothing changes
with a child. -/
theorem changeChild_frame (s : Session) (pid : Pid) (change : Child → Child) :
    (s.changeChild pid change).options = s.options ∧
      (s.changeChild pid change).jobs = s.jobs ∧
      (s.changeChild pid change).machine.nextPid = s.machine.nextPid ∧
      (s.flags.childEnded = true → (s.changeChild pid change).flags.childEnded = true) := by
  unfold changeChild
  split
  · exact ⟨rfl, rfl, rfl, id⟩
  · rename_i c found
    dsimp only
    split
    · exact ⟨rfl, rfl, rfl, id⟩
    · cases (change c).state <;> exact ⟨rfl, rfl, rfl, fun _ => rfl⟩

/-- The histories after a child has been changed. -/
theorem historyOf_changeChild (found : s.machine.children.find? pid = some c) (q : Pid) :
    (s.changeChild pid change).historyOf q =
      s.historyOf q ++ (news pid c.state (change c).state).history q := by
  rw [historyOf, transcript_changeChild found, Transcript.history_append, historyOf]

/-- The news of a child are not about another one. -/
theorem history_news_of_ne (other : q ≠ pid) (old new : ChildState) :
    (news pid old new).history q = [] := by
  refine List.filter_eq_nil_iff.2 fun e member => ?_
  unfold news at member
  split at member
  · simp at member
  · split at member <;> simp at member
    · rcases member with rfl | rfl <;> simp [Entry.child?, other.symm]
    · simp [member, Entry.child?]

/-- Of the news, what is about the child itself is its death. -/
theorem history_news (pid : Pid) (old new : ChildState) :
    (news pid old new).history pid =
      if new = old then [] else match new with
        | .dead how => [.died pid how]
        | _ => [] := by
  unfold news
  split
  · rfl
  · split <;> simp [Transcript.history, Entry.child?]

/-- A child that is not dead may change its state, and may die. -/
theorem fate_of_change {old new : ChildState} {h : Transcript}
    (final : ∀ how, old = .dead how → new = old) :
    Fate pid h (some old) (h ++ (news pid old new).history pid) (some new) := by
  rw [history_news]
  by_cases same : new = old
  · rw [if_pos same, List.append_nil, same]
    exact .same _
  · have before : old.IsAlive := fun how dead => same (final how dead)
    rw [if_neg same]
    split
    · exact .died before
    · rw [List.append_nil]
      rename_i alive
      exact .altered before alive

/-- To change a child that has been announced, but not one that is dead, is the work of an event. -/
theorem outside_changeChild (keeps : ∀ c, (change c).pid = c.pid)
    (final : ∀ c how, c.state = .dead how → (change c).state = c.state)
    (announced : .said (.started pid) ∈ s.machine.transcript) :
    Outside s (s.changeChild pid change) := by
  obtain ⟨options, jobs, nextPid, flag⟩ := changeChild_frame s pid change
  cases found : s.machine.children.find? pid with
  | none =>
    rw [changeChild, found]
    exact .refl s
  | some c =>
    have state := stateOf_changeChild keeps found
    have history : ∀ q, (s.changeChild pid change).historyOf q =
        s.historyOf q ++ (news pid c.state (change c).state).history q :=
      historyOf_changeChild found
    have before : s.stateOf pid = some c.state := by rw [stateOf, found]; rfl
    have others : ∀ q, q ≠ pid → (s.changeChild pid change).stateOf q = s.stateOf q ∧
        (s.changeChild pid change).historyOf q = s.historyOf q := by
      intro q other
      rw [state, if_neg other, history, history_news_of_ne other, List.append_nil]
      exact ⟨rfl, rfl⟩
    refine ⟨options, jobs, nextPid, pids_changeChild keeps, flag,
      ⟨_, transcript_changeChild found, isAside_news _ _⟩, fun q => ?_, fun q how dead => ?_,
      fun q absent => others q fun same => absent (same ▸ announced)⟩
    · by_cases same : q = pid
      · subst same
        rw [state, if_pos rfl, history, before]
        exact fate_of_change (final c)
      · rw [(others q same).1, (others q same).2]
        exact .same _
    · by_cases same : q = pid
      · subst same
        rw [state, if_pos rfl] at dead
        by_cases kept : (change c).state = c.state
        · exact .inl (before.trans (kept ▸ dead))
        · exact .inr (childEnded_changeChild found kept)
      · exact .inl ((others q same).1 ▸ dead)

end Change

/-! ## Events -/

theorem Child.pid_receive (signal : Signal) (c : Child) : (c.receive signal).pid = c.pid := by
  unfold Child.receive
  split
  · split <;> rfl
  · rfl
  · split <;> rfl
  · split <;> rfl
  · split
    · split <;> rfl
    · rfl
  · rfl

theorem Child.pid_halt (c : Child) : c.halt.pid = c.pid := by
  unfold Child.halt
  split <;> rfl

theorem Child.state_receive_of_dead (signal : Signal) {c : Child} {how : Termination}
    (dead : c.state = .dead how) : (c.receive signal).state = c.state := by
  unfold Child.receive
  rw [dead]
  exact dead

/-- A stop that comes late does nothing to a dead child either. -/
theorem Child.state_halt_of_dead {c : Child} {how : Termination} (dead : c.state = .dead how) :
    c.halt.state = c.state := by
  unfold Child.halt
  rw [dead]
  exact dead

/-- A signal to a child that has been announced comes from outside. -/
theorem outside_signalChild (n : Signal)
    (announced : .said (.started pid) ∈ s.machine.transcript) :
    Outside s (s.signalChild pid n) :=
  outside_changeChild (Child.pid_receive n) (fun _ _ => Child.state_receive_of_dead n) announced

theorem outside_endChild (how : Termination)
    (announced : .said (.started pid) ∈ s.machine.transcript) :
    Outside s (s.endChild pid how) := by
  refine outside_changeChild (fun c => ?_) (fun c how' dead => ?_) announced
  · split <;> rfl
  · rw [if_pos]
    rw [Child.isDead, dead]

/-- The jobs that events are about have been announced. -/
theorem mem_started_of_job? {t : Transcript} {n : Nat} (h : t.job? n = some pid) :
    .said (.started pid) ∈ t := by
  cases n with
  | zero => cases h
  | succ n =>
    obtain ⟨e, member, found⟩ := List.mem_filterMap.1 (List.mem_of_getElem? h)
    cases e with
    | said message =>
      cases message with
      | started p =>
        cases found
        exact member
      | _ => cases found
    | _ => cases found

/-- Whatever is done to a job from outside, it is done to a child that has been announced. -/
theorem outside_onJob (job : Nat) {action : Pid → Session}
    (h : ∀ pid, .said (.started pid) ∈ s.machine.transcript → Outside s (action pid)) :
    Outside s (s.onJob job action) := by
  unfold onJob
  split
  · rename_i pid found
    exact h pid (mem_started_of_job? found)
  · exact .refl s

/-- Each event comes from outside. -/
theorem outside_apply (s : Session) (event : Event) : Outside s (s.apply event) := by
  cases event with
  | signal n => exact (quiet_receive s n).outside
  | finish job code => exact outside_onJob job fun _ => outside_endChild _
  | kill job n => exact outside_onJob job fun _ => outside_endChild _
  | poke job n => exact outside_onJob job fun _ => outside_signalChild n
  | halt job =>
    exact outside_onJob job fun _ =>
      outside_changeChild Child.pid_halt fun _ _ => Child.state_halt_of_dead
  | exhaust on =>
    have quiet : Quiet s (s.apply (.exhaust on)) := quiet_machine ⟨rfl, rfl, .refl _ _⟩
    exact quiet.outside

theorem outside_applyAll (s : Session) (events : List Event) : Outside s (s.applyAll events) := by
  induction events generalizing s with
  | nil => exact .refl s
  | cons event events ih => exact (outside_apply s event).trans (ih _)

theorem outside_await (s : Session) (waits : List (List Event)) :
    Outside s (waits.foldl await s) := by
  induction waits generalizing s with
  | nil => exact .refl s
  | cons events waits ih =>
    have waiting : Quiet s (s.record .awaiting) := quiet_record rfl
    exact (waiting.outside.trans (outside_applyAll _ events)).trans (ih _)

end Session

end JobShell
