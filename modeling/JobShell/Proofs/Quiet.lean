import JobShell.Proofs.Access
import JobShell.Proofs.History
import JobShell.Proofs.Outputs

/-!
# What leaves the children alone

Most of what a shell and its children do has no bearing on which children there are and in which
state, nor on the job table: reading, writing and opening files, messages, the working directory,
changes of mode. `Quiet` says so of two states, one after the other; it lets the shell be told that
a child has changed, but not forget it.

* `quiet_runChild`: a child that runs its program is quiet until the shell looks at its state.
* `quiet_builtin`: so is each built-in command.
-/

namespace JobShell

/-! ## The machine -/

/-- The machine `m'` comes after `m`, with the same children. -/
structure Machine.Quiet (m m' : Machine) : Prop where
  children : m'.children = m.children
  nextPid : m'.nextPid = m.nextPid
  transcript : m.transcript.Extends (·.child? = none) m'.transcript

namespace Machine

variable {m m' : Machine}

theorem Quiet.refl (m : Machine) : Quiet m m :=
  ⟨rfl, rfl, .refl _ _⟩

theorem Quiet.trans {m'' : Machine} (first : Quiet m m') (second : Quiet m' m'') : Quiet m m'' where
  children := second.children.trans first.children
  nextPid := second.nextPid.trans first.nextPid
  transcript := first.transcript.trans second.transcript

/-- To tell of something that is about no child leaves the children alone. -/
theorem quiet_record {e : Entry} (h : e.child? = none) : Quiet m (m.record e) :=
  ⟨rfl, rfl, .single h⟩

theorem Files.quiet (files : m.Files m') : m.Quiet m' := by
  obtain ⟨tree, opened, written, rfl, all⟩ := files
  refine ⟨rfl, rfl, written, rfl, fun e member => ?_⟩
  cases e with
  | written _ _ => rfl
  | _ => cases all _ member

end Machine

/-! ## The session -/

/-- The session `s'` comes after `s`, with the same children and the same jobs. -/
structure Session.Quiet (s s' : Session) : Prop where
  options : s'.options = s.options
  jobs : s'.jobs = s.jobs
  childEnded : s.flags.childEnded = true → s'.flags.childEnded = true
  machine : s.machine.Quiet s'.machine

namespace Session

variable {s s' : Session}

theorem Quiet.refl (s : Session) : Quiet s s :=
  ⟨rfl, rfl, id, .refl _⟩

theorem Quiet.trans {s'' : Session} (first : Quiet s s') (second : Quiet s' s'') : Quiet s s'' where
  options := second.options.trans first.options
  jobs := second.jobs.trans first.jobs
  childEnded := second.childEnded ∘ first.childEnded
  machine := first.machine.trans second.machine

theorem quiet_machine {m : Machine} (h : s.machine.Quiet m) : Quiet s { s with machine := m } :=
  ⟨rfl, rfl, id, h⟩

theorem quiet_record {e : Entry} (h : e.child? = none) : Quiet s (s.record e) :=
  quiet_machine (Machine.quiet_record h)

/-- A message is quiet if it is about no child. -/
theorem quiet_say {message : Message} (h : (Entry.said message).child? = none) :
    Quiet s (s.say message) :=
  quiet_record h

theorem quiet_report (s : Session) (error : ShellError) : Quiet s (s.report error) :=
  quiet_say rfl

theorem quiet_sayAll {messages : List Message}
    (h : ∀ message ∈ messages, (Entry.said message).child? = none) :
    Quiet s (s.sayAll messages) := by
  induction messages generalizing s with
  | nil => exact .refl s
  | cons message messages ih =>
    rw [List.forall_mem_cons] at h
    exact (quiet_say h.1).trans (ih h.2)

/-- Flags may change, but the news of a child that has ended is not forgotten. -/
theorem quiet_flags {flags : SignalFlags}
    (h : s.flags.childEnded = true → flags.childEnded = true) : Quiet s { s with flags } :=
  ⟨rfl, rfl, h, .refl _⟩

theorem quiet_setWaiting (s : Session) (waiting : Bool) : Quiet s (s.setWaiting waiting) :=
  quiet_flags id

/-- A change of mode has nothing to do with ended children. -/
theorem childEnded_toggle (f : SignalFlags) : f.toggle.1.childEnded = f.childEnded := by
  unfold SignalFlags.toggle
  dsimp only
  split
  · split <;> rfl
  · rfl

theorem quiet_toggleMode (s : Session) : Quiet s s.toggleMode := by
  have kept := childEnded_toggle s.flags
  unfold toggleMode
  split <;> rename_i result <;> rw [result] at kept
  · exact quiet_flags fun h => kept.trans h
  · refine (quiet_flags fun h => kept.trans h).trans (quiet_sayAll ?_)
    simp [Entry.child?]

/-- A signal to the shell is quiet, SIGCHLD too: it only tells the shell to look. -/
theorem quiet_receive (s : Session) (n : ShellSignal) : Quiet s (s.receive n) := by
  have recorded : Quiet s (s.record (.received n.number)) := quiet_record rfl
  cases n with
  | interrupt => exact recorded
  | childEnded => exact recorded.trans (quiet_flags fun _ => rfl)
  | terminalStop => exact recorded.trans (quiet_toggleMode _)

theorem quiet_showNotices (s : Session) : Quiet s s.showNotices := by
  have taken : Quiet s { s with flags := s.flags.takeNotices.1 } := quiet_flags id
  rw [showNotices_eq]
  refine taken.trans (quiet_sayAll ?_)
  simp [Entry.child?]

theorem quiet_supply (s : Session) (r : Reading) : Quiet s (s.supply r).1 := by
  have read : Quiet s (s.readInput (some (r.waits.length * Input.blockSize))).1 :=
    quiet_machine (Machine.acrossUse_files.readFrom _ _ _ _).quiet
  unfold supply
  split
  · exact .refl s
  · exact read

/-! ### Children that run -/

/-- A program in a child changes files and writes, until its state is looked at. -/
theorem acrossRun_quiet : AcrossRun Machine.Files Quiet :=
  ⟨Machine.acrossUse_files, .refl, .trans, fun files => quiet_machine files.quiet, quiet_receive⟩

/-- The child of a command, from its setting up to its end, is quiet. -/
theorem quiet_runChild (env : Environment) (c : Command) (argv : List String) (s : Session) :
    Quiet s (Launch.runChild env c argv s).1 :=
  acrossRun_quiet.runChild env c argv s

/-! ### Commands that need no child -/

theorem quiet_enterDirectory (s : Session) (path : String) (failure : ShellError) :
    Quiet s (Builtin.enterDirectory s path failure).1 := by
  unfold Builtin.enterDirectory
  split
  · exact quiet_machine ⟨rfl, rfl, .refl _ _⟩
  · exact .refl s

/-- No built-in command makes a child; the jobs that `exit` ends are ended by the loop. -/
theorem quiet_builtin (b : Builtin) (env : Environment) (args : List String) (s : Session) :
    Quiet s (b.run env args s).1 := by
  cases b with
  | changeDirectory =>
    show Quiet s (Builtin.runChangeDirectory env args s).1
    unfold Builtin.runChangeDirectory
    split
    · exact quiet_enterDirectory s _ _
    · exact quiet_enterDirectory s _ _
    · exact .refl s
  | status => exact quiet_say rfl
  | exit => exact .refl s

/-- To note the end of a child that has been collected is quiet. -/
theorem quiet_noteEnd (s : Session) (result : Except Errno Termination) :
    Quiet s (s.noteEnd result).1 := by
  cases result with
  | error e => exact .refl s
  | ok how =>
    cases how with
    | exited code => exact ⟨rfl, rfl, id, .refl _⟩
    | signaled n =>
      have said : Quiet s (s.say (.interrupted (.signaled n))) := quiet_say rfl
      exact ⟨said.options, said.jobs, said.childEnded, said.machine⟩

end Session

end JobShell
