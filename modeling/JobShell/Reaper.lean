import JobShell.Session

/-!
# The reaper

After each line, if a child has ended since the last time, the shell collects its dead children, one
at a time, and reports them. More of them can die while it does so, and those are collected in the
same pass. An end that cannot be decoded stops the pass: the child is collected all the same, but
neither reported nor taken off the job table, and those after it are left for a later pass.

* `length_children_applyAll`: nothing from outside makes or collects a child.
* `length_children_reapChildOn_lt`: each turn of the reaper collects one.
-/

namespace JobShell

/-- The dead child that a wait for any child hands out. -/
def Children.ready? (cs : Children) : Option (Pid × Termination) :=
  cs.dead.head?

namespace Session

/-- Collects a dead child, and reports it and takes it off the job table if its end can be
decoded and the report is taken. -/
def reapChildOn (out : Output) (s : Session) (pid : Pid) (how : Termination) : Session × Outcome :=
  match how.decode with
  | .error e => (s.collect pid, .error (.system e))
  | .ok how =>
    match (s.collect pid).sayOn out (.done pid how) with
    | (s, .ok) => (s.untrack pid, .ok)
    | failed => failed

/-! ## The number of children -/

theorem children_toggleMode (s : Session) :
    s.toggleMode.machine.children = s.machine.children := by
  unfold toggleMode
  split <;> rfl

theorem children_receive (s : Session) (n : ShellSignal) :
    (s.receive n).machine.children = s.machine.children := by
  cases n with
  | terminalStop => exact (s.record (.received Signal.terminalStop)).children_toggleMode
  | _ => rfl

theorem children_recordDeath (s : Session) (pid : Pid) (state : ChildState) :
    (s.recordDeath pid state).machine.children = s.machine.children := by
  cases state <;> rfl

theorem length_children_changeChild (s : Session) (pid : Pid) (change : Child → Child) :
    (s.changeChild pid change).machine.children.length = s.machine.children.length := by
  unfold changeChild
  split
  · rfl
  · simp only
    split
    · simp [Children.modify]
    · simp [children_receive, children_recordDeath, Children.modify]

theorem length_children_onJob (s : Session) (job : Nat) {action : Pid → Session}
    (h : ∀ pid, (action pid).machine.children.length = s.machine.children.length) :
    (s.onJob job action).machine.children.length = s.machine.children.length := by
  unfold onJob
  split
  · exact h _
  · rfl

theorem length_children_apply (s : Session) (event : Event) :
    (s.apply event).machine.children.length = s.machine.children.length := by
  cases event with
  | signal n => exact congrArg List.length (s.children_receive n)
  | finish job code =>
    exact s.length_children_onJob job fun pid => s.length_children_changeChild pid _
  | kill job n =>
    exact s.length_children_onJob job fun pid => s.length_children_changeChild pid _
  | poke job n =>
    exact s.length_children_onJob job fun pid => s.length_children_changeChild pid _
  | halt job =>
    exact s.length_children_onJob job fun pid => s.length_children_changeChild pid _
  | exhaust on => rfl

theorem length_children_applyAll (s : Session) (events : List Event) :
    (s.applyAll events).machine.children.length = s.machine.children.length := by
  unfold applyAll
  induction events generalizing s with
  | nil => rfl
  | cons event events ih => rw [List.foldl_cons, ih, length_children_apply]

theorem children_sayOn (out : Output) (s : Session) (message : Message) :
    (s.sayOn out message).1.machine.children = s.machine.children := by
  unfold sayOn
  split <;> rfl

theorem children_reapChildOn (out : Output) (s : Session) (pid : Pid) (how : Termination) :
    (s.reapChildOn out pid how).1.machine.children = s.machine.children.collect pid := by
  unfold reapChildOn
  split
  · rfl
  · rename_i told _
    have said := children_sayOn out (s.collect pid) (.done pid told)
    split <;> rename_i result
    · rw [result] at said
      exact said
    · exact said

theorem length_collect_lt {cs : Children} {pid : Pid} {how : Termination}
    (h : cs.ready? = some (pid, how)) : (cs.collect pid).length < cs.length := by
  obtain ⟨c, member, same⟩ := List.mem_filterMap.1 (List.mem_of_head? h)
  have here : c.pid = pid := by
    split at same
    · exact congrArg Prod.fst (Option.some.inj same)
    · cases same
  exact List.length_filter_lt_length_iff_exists.2 ⟨c, member, by simp [here]⟩

/-- Each turn of the reaper leaves one child fewer, whether or not its report is refused; so a pass
comes to its end. -/
theorem length_children_reapChildOn_lt (out : Output) {s : Session} {pid : Pid} {how : Termination}
    (h : s.machine.children.ready? = some (pid, how)) :
    (s.reapChildOn out pid how).1.machine.children.length < s.machine.children.length := by
  rw [children_reapChildOn]
  exact length_collect_lt h

/-! ## A pass -/

/-- Collects dead children until there are none. `between` is what happens from outside before each
look for one. -/
def drainOn (out : Output) (between : List (List Event)) (s : Session) : Session × Outcome :=
  let now := s.applyAll (between.head?.getD [])
  match _ready : now.machine.children.ready? with
  | none => (now, .ok)
  | some (pid, how) =>
    let turn := now.reapChildOn out pid how
    if turn.2 = .ok then turn.1.drainOn out between.tail else turn
termination_by s.machine.children.length
decreasing_by
  rw [← s.length_children_applyAll (between.head?.getD [])]
  exact length_children_reapChildOn_lt out _ready

/-- The session once the shell has taken note that children have ended. -/
def calm (s : Session) : Session :=
  { s with flags := s.flags.takeChildEnded.1 }

/-- The pass of the reaper after a line, with its error reported. `gap` is what happens from outside
once the flag has been taken and before the pass starts. -/
def afterLineOn (out : Output) (gap : List Event) (between : List (List Event)) (s : Session) :
    Session :=
  match s.flags.takeChildEnded with
  | (_, false) => s
  | (flags, true) =>
    match (({ s with flags }).applyAll gap).drainOn out between with
    | (s, .error e) => s.reportOn out e
    | (s, _) => s

/-! ## Over an output that takes everything -/

/-- Collects a dead child, and reports it and takes it off the job table if its end can be
decoded. -/
def reapChild (s : Session) (pid : Pid) (how : Termination) : Session × Outcome :=
  s.reapChildOn .sound pid how

/-- Collects dead children until there are none. -/
def drain (between : List (List Event)) (s : Session) : Session × Outcome :=
  s.drainOn .sound between

/-- Collects the dead children while nothing happens from outside. -/
def reap (s : Session) : Session × Outcome :=
  s.drain []

/-- The pass of the reaper after a line, with its error reported, while nothing happens from
outside. -/
def afterLine (s : Session) : Session :=
  s.afterLineOn .sound [] []

end Session

end JobShell
