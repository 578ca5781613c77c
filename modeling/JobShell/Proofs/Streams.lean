import JobShell.Proofs.Hearing
import JobShell.Proofs.Loop
import JobShell.Proofs.Redirections

/-!
# The shell's streams

Files are opened, read and written by children, and by the shell where it reads its input; nothing
else that it does touches them (`Session.Untouched`). The shell's own descriptors never change, and
open files go on standing for what they stand for (`Session.Keeps`), so its output is the stream for
ever.

* `untouched_applyAll`, `untouched_afterLine`: events, and the pass of the reaper, touch no file.
* `Reaches.carries`: what holds across each use of files holds across a run.
* `Reaches.wired`: at every prompt the shell's output is the stream.
-/

namespace JobShell

/-- What children have written to the shell's streams. -/
def Transcript.output (t : Transcript) : Transcript :=
  t.filter (·.isWritten)

/-- What has been written in two parts of a transcript, one after the other. -/
theorem Transcript.output_append (t u : Transcript) : (t ++ u).output = t.output ++ u.output :=
  List.filter_append _ _

namespace Session

variable {s s' s'' : Session}

/-- Between `s` and `s'` no file has been opened, read or written, and no child has written
anything. -/
structure Untouched (s s' : Session) : Prop where
  descriptors : s'.descriptors = s.descriptors
  tree : s'.machine.tree = s.machine.tree
  opened : s'.machine.opened = s.machine.opened
  output : s'.machine.transcript.output = s.machine.transcript.output

/-- Between `s` and `s'` the shell's descriptors have not changed, nor what open files stand for. -/
structure Keeps (s s' : Session) : Prop where
  descriptors : s'.descriptors = s.descriptors
  machine : s.machine.Keeps s'.machine

theorem Untouched.refl (s : Session) : Untouched s s :=
  ⟨rfl, rfl, rfl, rfl⟩

theorem Untouched.trans (first : Untouched s s') (second : Untouched s' s'') : Untouched s s'' :=
  ⟨second.descriptors.trans first.descriptors, second.tree.trans first.tree,
    second.opened.trans first.opened, second.output.trans first.output⟩

/-- Where no file is touched, open files stand for what they stood for. -/
theorem Untouched.keeps (untouched : Untouched s s') : Keeps s s' :=
  ⟨untouched.descriptors, Machine.keeps_of_prefix (untouched.opened ▸ List.prefix_refl _)⟩

theorem Keeps.trans (first : Keeps s s') (second : Keeps s' s'') : Keeps s s'' :=
  ⟨second.descriptors.trans first.descriptors, first.machine.trans second.machine⟩

/-! ## What the shell does itself -/

/-- To tell of something that is not a write touches no file. -/
theorem untouched_record {e : Entry} (unwritten : e.isWritten = false) :
    Untouched s (s.record e) := by
  refine ⟨rfl, rfl, rfl, ?_⟩
  show Transcript.output (s.machine.transcript ++ [e]) = _
  rw [Transcript.output_append, Transcript.output, Transcript.output,
    List.filter_cons_of_neg (by simp [unwritten]), List.filter_nil, List.append_nil]

theorem untouched_flags (s : Session) (flags : SignalFlags) : Untouched s { s with flags } :=
  ⟨rfl, rfl, rfl, rfl⟩

theorem untouched_children (s : Session) (children : Children) :
    Untouched s { s with machine := { s.machine with children } } :=
  ⟨rfl, rfl, rfl, rfl⟩

theorem untouched_jobs (s : Session) (jobs : JobTable) : Untouched s { s with jobs } :=
  ⟨rfl, rfl, rfl, rfl⟩

/-- A message of the shell is not counted as the output of a child. -/
theorem untouched_say (message : Message) : Untouched s (s.say message) :=
  untouched_record rfl

theorem untouched_sayAll (messages : List Message) (s : Session) :
    Untouched s (s.sayAll messages) := by
  induction messages generalizing s with
  | nil => exact .refl s
  | cons message messages ih => exact (untouched_say message).trans (ih _)

/-- Pending notices are shown without a file being touched. -/
theorem untouched_showNotices (s : Session) : Untouched s s.showNotices := by
  rw [showNotices_eq]
  exact (untouched_flags s s.flags.takeNotices.1).trans
    (untouched_sayAll (s.flags.pending.map Message.notice) _)

theorem untouched_toggleMode (s : Session) : Untouched s s.toggleMode := by
  unfold toggleMode
  split
  · exact untouched_flags s _
  · exact (untouched_flags s _).trans (untouched_sayAll _ _)

theorem untouched_receive (s : Session) (n : ShellSignal) : Untouched s (s.receive n) := by
  have recorded : Untouched s (s.record (.received n.number)) := untouched_record rfl
  cases n with
  | interrupt => exact recorded
  | childEnded => exact recorded.trans (untouched_flags _ _)
  | terminalStop => exact recorded.trans (untouched_toggleMode _)

theorem untouched_changeChild (s : Session) (pid : Pid) (change : Child → Child) :
    Untouched s (s.changeChild pid change) := by
  have died : ∀ (s : Session) state, Untouched s (s.recordDeath pid state) := by
    intro s state
    cases state with
    | dead how => exact untouched_record rfl
    | _ => exact .refl s
  unfold changeChild
  split
  · exact .refl s
  · dsimp only
    split
    · exact untouched_children s _
    · exact ((untouched_children s _).trans (died _ _)).trans (untouched_receive _ _)

/-- No event touches a file: a child does its writing when it is made. -/
theorem untouched_apply (s : Session) (event : Event) : Untouched s (s.apply event) := by
  have onJob : ∀ job (action : Pid → Session), (∀ pid, Untouched s (action pid)) →
      Untouched s (s.onJob job action) := by
    intro job action each
    unfold Session.onJob
    split
    · exact each _
    · exact .refl s
  cases event with
  | signal n => exact untouched_receive s n
  | finish job code => exact onJob job _ fun pid => untouched_changeChild s pid _
  | kill job n => exact onJob job _ fun pid => untouched_changeChild s pid _
  | poke job n => exact onJob job _ fun pid => untouched_changeChild s pid _
  | halt job => exact onJob job _ fun pid => untouched_changeChild s pid _
  | exhaust on => exact ⟨rfl, rfl, rfl, rfl⟩

theorem untouched_applyAll (s : Session) (events : List Event) :
    Untouched s (s.applyAll events) := by
  induction events generalizing s with
  | nil => exact .refl s
  | cons event events ih => exact (untouched_apply s event).trans (ih _)

/-- All that comes before a line is read touches no file. -/
theorem untouched_prompted (waits : List (List Event)) (s : Session) :
    Untouched s (s.prompted waits) := by
  have awaited : ∀ s : Session, Untouched s (waits.foldl await s) := by
    induction waits with
    | nil => exact .refl
    | cons events waits ih =>
      intro s
      have waiting : Untouched s (s.record .awaiting) := untouched_record rfl
      exact (waiting.trans (untouched_applyAll _ events)).trans (ih _)
  exact ((untouched_showNotices s).trans (untouched_say _)).trans (awaited _)

theorem untouched_collect (s : Session) (pid : Pid) : Untouched s (s.collect pid) :=
  (untouched_children s _).trans (untouched_record rfl)

theorem untouched_noteEnd (s : Session) (result : Except Errno Termination) :
    Untouched s (s.noteEnd result).1 := by
  cases result with
  | error e => exact .refl s
  | ok how =>
    cases how with
    | exited code => exact ⟨rfl, rfl, rfl, rfl⟩
    | signaled n =>
      have said : Untouched s (s.say (.interrupted (.signaled n))) := untouched_say _
      exact ⟨said.descriptors, said.tree, said.opened, said.output⟩

theorem untouched_afterWait (s : Session) (pid : Pid) : Untouched s (s.afterWait pid) :=
  ((untouched_collect s pid).trans (untouched_jobs _ _)).trans (untouched_flags _ _)

/-- The wait for a foreground child touches no file. -/
theorem untouched_awaitForeground (s : Session) (pid : Pid) :
    Untouched s (s.awaitForeground pid).1 := by
  rw [awaitForeground_eq]
  split
  · exact (untouched_afterWait s pid).trans (untouched_noteEnd _ _)
  · exact .refl s

/-- The reaper touches no file. -/
theorem untouched_reap (s : Session) : Untouched s s.reap.1 := by
  have reaped := reaped_reap s
  generalize s.reap = result at reaped
  induction reaped with
  | idle _ => exact .refl _
  | lost _ _ => exact untouched_collect _ _
  | @next s pid how r _ _ _ ih =>
    have dismissed : Untouched s (s.dismiss pid how) :=
      ((untouched_collect s pid).trans (untouched_say (.done pid how))).trans (untouched_jobs _ _)
    exact dismissed.trans ih

theorem untouched_afterLine (s : Session) : Untouched s s.afterLine := by
  rw [afterLine_eq_reap]
  split
  · exact .refl s
  · rename_i flags _
    have reaped := (untouched_flags s flags).trans (untouched_reap { s with flags })
    split <;> rename_i result <;> rw [result] at reaped
    · exact reaped.trans (untouched_say _)
    · exact reaped

/-- A child that has only been made has touched no file yet. -/
theorem untouched_addChild (s : Session) (own : Dispositions) (background : Bool) :
    Untouched s (s.addChild own background).1 := by
  have made : Untouched s { s with machine := { s.machine with
      children := s.machine.children ++ [⟨s.newPid, own, s.descriptors, .running, false⟩]
      nextPid := s.newPid + 1 } } := ⟨rfl, rfl, rfl, rfl⟩
  exact made.trans (untouched_record rfl)

/-- The built-in commands change the working directory, the status or the jobs, but no file. -/
theorem untouched_builtin (b : Builtin) (env : Environment) (args : List String) (s : Session) :
    Untouched s (b.run env args s).1 := by
  have entered : ∀ path failure, Untouched s (Builtin.enterDirectory s path failure).1 := by
    intro path failure
    unfold Builtin.enterDirectory
    split
    · exact ⟨rfl, rfl, rfl, rfl⟩
    · exact .refl s
  cases b with
  | changeDirectory =>
    show Untouched s (Builtin.runChangeDirectory env args s).1
    unfold Builtin.runChangeDirectory
    split
    · exact entered _ _
    · exact entered _ _
    · exact .refl s
  | status => exact untouched_say _
  | exit => exact .refl s

/-! ## What lasts -/

/-- A relation between a machine and a later one that holds whatever happens to the files there. -/
structure Lasting (R : Machine → Machine → Prop) : Prop extends Machine.AcrossUse R where
  aside {m m' : Machine} : m'.tree = m.tree → m'.opened = m.opened → R m m'

/-- Between `s` and `s'` the shell's descriptors have not changed, and the machines are related. -/
structure Carries (R : Machine → Machine → Prop) (s s' : Session) : Prop where
  descriptors : s'.descriptors = s.descriptors
  machine : R s.machine s'.machine

section Lasting

variable {R : Machine → Machine → Prop} (lasting : Lasting R) {env : Environment} {start : Session}

include lasting

theorem Carries.refl (s : Session) : Carries R s s :=
  ⟨rfl, lasting.refl _⟩

theorem Carries.trans (first : Carries R s s') (second : Carries R s' s'') : Carries R s s'' :=
  ⟨second.descriptors.trans first.descriptors, lasting.trans first.machine second.machine⟩

/-- Where no file is touched, all that lasts is carried on. -/
theorem Untouched.carries (untouched : Untouched s s') : Carries R s s' :=
  ⟨untouched.descriptors, lasting.aside untouched.tree untouched.opened⟩

/-- A run of a program carries on what each of its uses of files carries on. -/
theorem acrossRun_carries : AcrossRun R (Carries R) where
  use := lasting.toAcrossUse
  refl := .refl lasting
  trans := .trans lasting
  machine related := ⟨rfl, related⟩
  receive s n := (untouched_receive s n).carries lasting

/-- To set up a child and run its program carries it on. -/
theorem carries_bear (env : Environment) (c : Command) (argv : List String) (s : Session) :
    Carries R s (bear env c argv s).1 := by
  have added := (untouched_addChild s (Launch.dispositions env c) c.background).carries lasting
  exact .trans lasting added ((acrossRun_carries lasting).runChild env c argv _)

theorem carries_carryOut (env : Environment) (c : Command) (argv : List String)
    (meanwhile : List Event) (s : Session) : Carries R s (s.carryOut env c argv meanwhile).1 := by
  refine .trans lasting (carries_bear lasting env c argv s) (Untouched.carries lasting ?_)
  cases background : c.background with
  | true =>
    rw [carryOut_of_background background]
    have settled := untouched_changeChild (bear env c argv s).1 s.newPid fun child =>
      { child with descriptors := (bear env c argv s).2.1, state := (bear env c argv s).2.2 }
    exact (settled.trans (untouched_jobs _ _)).trans (untouched_say _)
  | false =>
    rw [carryOut_of_foreground background]
    have ran := untouched_applyAll ((bear env c argv s).1.track s.newPid) meanwhile
    have attended : Untouched (bear env c argv s).1 (s.attend env c argv meanwhile) :=
      ((untouched_jobs _ _).trans ran).trans (untouched_changeChild _ _ _)
    exact attended.trans (untouched_awaitForeground _ _)

theorem carries_spawn (env : Environment) (c : Command) (meanwhile : List Event) (s : Session) :
    Carries R s (s.spawn env c meanwhile).1 := by
  have begun : Untouched s (if c.background then s else s.setWaiting true) := by
    split
    · exact .refl s
    · exact untouched_flags s _
  rw [spawn_eq]
  cases c.programArgv with
  | error e => exact .refl lasting s
  | ok argv =>
    dsimp only
    generalize (if c.background then s else s.setWaiting true) = t at begun
    split
    · exact (begun.trans (untouched_flags t _)).carries lasting
    · exact .trans lasting (begun.carries lasting) (carries_carryOut lasting env c argv meanwhile t)

theorem carries_handlePiece (env : Environment) (piece : Bytes) (meanwhile : List Event)
    (s : Session) : Carries R s (s.handlePiece env piece meanwhile).1 := by
  simp only [handlePiece_eq, handleLine_eq, dispatch_eq]
  split
  · exact .refl lasting s
  · split
    · exact .refl lasting s
    · split
      · exact .refl lasting s
      · split
        · exact (untouched_builtin _ env _ s).carries lasting
        · exact carries_spawn lasting env _ meanwhile s

theorem carries_step (env : Environment) (r : Reading) (s : Session) :
    Carries R s (s.step env r).1 := by
  have prompted := untouched_prompted r.waits s
  rw [step_eq]
  split
  · exact prompted.carries lasting
  · exact .trans lasting ((prompted.trans (untouched_record rfl)).carries lasting)
      (carries_handlePiece lasting _ _ _ _)

/-- What lasts goes on lasting while the loop goes on. -/
theorem carries_round {r : Reading} (goes_on : (s.round env r).2 = none) :
    Carries R s (s.round env r).1 := by
  have step := carries_step lasting env r s
  rw [round_eq] at goes_on ⊢
  split at goes_on <;> rename_i result <;> rw [result] at step
  · exact .trans lasting step ((untouched_afterLine _).carries lasting)
  · cases goes_on
  · exact .trans lasting step (((untouched_say _).trans (untouched_afterLine _)).carries lasting)
  · cases goes_on

theorem carries_supply (s : Session) (r : Reading) : Carries R s (s.supply r).1 := by
  have read : Carries R s (s.readInput (some (r.waits.length * Input.blockSize))).1 :=
    (acrossRun_carries lasting).machine (lasting.readFrom s.machine s.descriptors standardInput _)
  unfold supply
  split
  · exact .refl lasting s
  · exact read

/-- What is carried on by each use of files is carried on from prompt to prompt. -/
theorem Reaches.carries (reach : Reaches env start s) : Carries R start s := by
  induction reach with
  | refl => exact .refl lasting _
  | supply r _ ih => exact .trans lasting ih (carries_supply lasting _ r)
  | round r _ goes_on ih => exact .trans lasting ih (carries_round lasting goes_on)

end Lasting

/-- That open files go on standing for what they stand for is such a relation. -/
theorem lasting_keeps : Lasting Machine.Keeps :=
  { Machine.acrossUse_keeps with
    aside := fun _ opened => Machine.keeps_of_prefix (opened ▸ List.prefix_refl _) }

theorem Carries.keeps (carries : Carries Machine.Keeps s s') : Keeps s s' :=
  ⟨carries.descriptors, carries.machine⟩

/-- Open files go on standing for what they stand for. -/
theorem Reaches.keeps {env : Environment} {start : Session} (reach : Reaches env start s) :
    Keeps start s :=
  (reach.carries lasting_keeps).keeps

/-! ## The shell's own output -/

/-- The shell's own output is the stream. -/
structure Wired (s : Session) : Prop where
  descriptors : s.descriptors = .standard
  output : ∃ offset, s.machine.opened[1]? =
    some { target := .stream .out, offset, readable := false, writable := true }

/-- A session starts with its output on the stream. -/
theorem wired_initial (options : Options) (tree : FileTree) (cwd : Place) (nextPid : Pid)
    (input : Bytes) : (initial options tree cwd nextPid input).Wired :=
  ⟨rfl, 0, rfl⟩

/-- The output stays on the stream where the descriptors do not change. -/
theorem Keeps.wired (keeps : Keeps s s') (wired : s.Wired) : s'.Wired := by
  obtain ⟨offset, output⟩ := wired.output
  exact ⟨keeps.descriptors.trans wired.descriptors, keeps.machine 1 _ output⟩

/-- At every prompt the shell writes to the stream. -/
theorem Reaches.wired {env : Environment} {start : Session} (reach : Reaches env start s)
    (wired : start.Wired) : s.Wired :=
  reach.keeps.wired wired

end Session
end JobShell
