import JobShell.Proofs.Answers
import JobShell.Proofs.Loop

/-!
# Commands that need a child

Blank lines, comments and built-in commands need no child, and a command with an argument that no
program can take never gets one. What such a line can do is little: `Unforked` lists it.

* `Command.needsChild_iff`: what a command that needs a child looks like to the shell.
* `tries_to_fork_iff`: the system is asked for a child exactly for such a command; any other one
  leaves the shell, its files and its children alone.
-/

namespace JobShell

/-! ## What a command asks for -/

/-- The first argument is no comment and no built-in command, and each argument can be handed to a
program. -/
def Command.NeedsChild (c : Command) : Prop :=
  ∃ name args, c.argv = name :: args ∧ name.toList.head? ≠ some '#' ∧
    name ∉ ["cd", "status", "exit"] ∧ ∀ word ∈ name :: args, '\x00' ∉ word.toList

theorem Builtin.ofName?_eq_none_iff {name : String} :
    Builtin.ofName? name = none ↔ name ∉ ["cd", "status", "exit"] := by
  unfold Builtin.ofName?
  split_ifs <;> simp_all

/-- A command can be handed to the system unless a word of it holds a null character. -/
theorem Command.programArgv_eq_ok_iff {c : Command} {argv : List String} :
    c.programArgv = .ok argv ↔ argv = c.argv ∧ ∀ word ∈ c.argv, '\x00' ∉ word.toList := by
  have passable : ∀ word : String, isPassable word = true ↔ '\x00' ∉ word.toList := by
    simp [isPassable]
  unfold programArgv
  split <;> rename_i found
  · obtain ⟨member, impassable⟩ := And.intro (List.mem_of_find?_eq_some found)
      (List.find?_some found)
    refine iff_of_false (by simp) fun ⟨_, all⟩ => ?_
    rw [(passable _).2 (all _ member)] at impassable
    cases impassable
  · have all : ∀ word ∈ c.argv, '\x00' ∉ word.toList := fun word member =>
      (passable word).1 (by simpa using List.find?_eq_none.1 found word member)
    constructor
    · rintro ⟨⟩
      exact ⟨rfl, all⟩
    · rintro ⟨rfl, -⟩
      rfl

/-- A command that needs a child is not blank, no comment and not built in, and its arguments are
passable. -/
theorem Command.needsChild_iff {c : Command} :
    c.NeedsChild ↔ c.isBlank = false ∧ c.isComment = false ∧ Builtin.ofName? c.program = none ∧
      ∃ argv, c.programArgv = .ok argv := by
  cases words : c.argv with
  | nil =>
    refine iff_of_false ?_ ?_
    · rintro ⟨name, args, there, -⟩
      rw [words] at there
      cases there
    · rintro ⟨present, -⟩
      rw [isBlank, words] at present
      cases present
  | cons name args =>
    have first : c.program = name := by rw [program, words]; rfl
    have comment : c.isComment = false ↔ name.toList.head? ≠ some '#' := by
      simp [isComment, startsComment, first]
    have present : c.isBlank = false := by rw [isBlank, words]; rfl
    rw [comment, first, Builtin.ofName?_eq_none_iff]
    constructor
    · rintro ⟨name', args', there, spoken, foreign, passable⟩
      cases words.symm.trans there
      refine ⟨present, spoken, foreign, c.argv, programArgv_eq_ok_iff.2 ⟨rfl, ?_⟩⟩
      rwa [words]
    · rintro ⟨-, spoken, foreign, argv, passable⟩
      have all := (programArgv_eq_ok_iff.1 passable).2
      rw [words] at all
      exact ⟨name, args, words, spoken, foreign, all⟩

/-- No built-in command is blank or a comment. -/
theorem Command.program_foreign {c : Command} (silent : (c.isBlank || c.isComment) = true) :
    c.program ∉ ["cd", "status", "exit"] := by
  have spoken : ∀ name ∈ ["cd", "status", "exit"], name ≠ "" ∧ startsComment name = false := by
    decide
  intro named
  obtain ⟨present, quiet⟩ := spoken _ named
  rcases Bool.or_eq_true_iff.1 silent with blank | comment
  · have nameless : c.program = "" := by
      rw [program, List.isEmpty_iff.1 blank]
      rfl
    exact present nameless
  · rw [isComment, quiet] at comment
    cases comment

namespace Session

variable {env : Environment} {s s' : Session} {c : Command} {argv : List String}
variable {meanwhile : List Event}

/-! ## The attempt -/

/-- The system has been asked for a child: it has made one, or refused to. -/
inductive TriesToFork (s : Session) : Session × Outcome → Prop
  | made {result : Session × Outcome} :
    (∃ background during, result.1.machine.transcript =
      s.machine.transcript ++ .forked s.newPid background :: during) → TriesToFork s result
  | refused {s' : Session} {e : Errno} : TriesToFork s (s', .error (.forkFailed e))

theorem Heard.extends {P : Entry → Prop} (h : Heard P s s') :
    s.machine.transcript.Extends P s'.machine.transcript := by
  obtain ⟨added, grown, -, all⟩ := h.heard
  exact ⟨added, grown, all⟩

theorem extends_bear (env : Environment) (c : Command) (argv : List String) (s : Session) :
    (s.addChild (Launch.dispositions env c) c.background).1.machine.transcript.Extends (fun _ => True)
      (bear env c argv s).1.machine.transcript :=
  (meanwhile_runChild env c argv _).extends.mono fun _ _ => trivial

theorem extends_awaitForeground (s : Session) (pid : Pid) :
    s.machine.transcript.Extends (fun _ => True) (s.awaitForeground pid).1.machine.transcript := by
  rw [awaitForeground_eq]
  split
  · rename_i how _
    have collected : s.machine.transcript.Extends (fun _ => True)
        (s.afterWait pid).machine.transcript := .single trivial
    exact collected.trans ⟨_, (noteEnd_frame _ how).2.2.2, fun _ _ => trivial⟩
  · exact .refl _ _

/-- Whatever becomes of a child, it has been made. -/
theorem triesToFork_carryOut (env : Environment) (c : Command) (argv : List String)
    (meanwhile : List Event) (s : Session) :
    TriesToFork s (s.carryOut env c argv meanwhile) := by
  have born := extends_bear env c argv s
  have settled : ∀ (s : Session) (pid : Pid) (change : Child → Child),
      s.machine.transcript.Extends (fun _ => True) (s.changeChild pid change).machine.transcript :=
    fun s pid change => (meanwhile_changeChild s pid change).extends.mono fun _ _ => trivial
  have rest : (s.addChild (Launch.dispositions env c) c.background).1.machine.transcript.Extends
      (fun _ => True) (s.carryOut env c argv meanwhile).1.machine.transcript := by
    cases background : c.background with
    | true =>
      rw [carryOut_of_background background]
      rw [background] at born
      exact (born.trans (settled _ _ _)).trans (.single trivial)
    | false =>
      rw [carryOut_of_foreground background]
      rw [background] at born
      have meant := (meanwhile_applyAll ((bear env c argv s).1.track s.newPid) meanwhile).extends
      exact ((born.trans (meant.mono fun _ _ => trivial)).trans (settled _ _ _)).trans
        (extends_awaitForeground _ _)
  obtain ⟨during, grown, -⟩ := rest
  refine .made ⟨c.background, during, grown.trans ?_⟩
  exact List.append_assoc _ [_] during

theorem TriesToFork.of_flags {flags : SignalFlags} {result : Session × Outcome}
    (tries : TriesToFork { s with flags } result) : TriesToFork s result := by
  cases tries with
  | made made => exact .made made
  | refused => exact .refused

/-- A command that can be handed to the system tries to make a child. -/
theorem triesToFork_spawn (passable : c.programArgv = .ok argv) (meanwhile : List Event) :
    TriesToFork s (s.spawn env c meanwhile) := by
  rw [spawn_eq, passable]
  dsimp only
  cases c.background with
  | true =>
    rw [if_pos rfl]
    split
    · exact .refused
    · exact triesToFork_carryOut env c argv meanwhile s
  | false =>
    rw [if_neg Bool.false_ne_true]
    split
    · exact .refused
    · exact (triesToFork_carryOut env c argv meanwhile (s.setWaiting true)).of_flags

/-! ## What is done without a child -/

/-- What the shell does about a command that needs no child, or cannot have one. -/
inductive Unforked (c : Command) (s : Session) : Session × Outcome → Prop
  | idle : c.program ∉ ["cd", "status", "exit"] → Unforked c s (s, .ok)
  | refused (word : String) : c.program ∉ ["cd", "status", "exit"] →
    Unforked c s (s, .error (.invalidArgument word))
  | moved (cwd : Place) : c.program = "cd" →
    Unforked c s ({ s with machine := { s.machine with cwd } }, .ok)
  | unmoved {e : ShellError} : c.program = "cd" → (e = .homeUnset ∨ ∃ path, e = .invalidPath path) →
    Unforked c s (s, .error e)
  | told : c.program = "status" → Unforked c s (s.say (.status s.lastStatus), .ok)
  | left : c.program = "exit" → Unforked c s (s, .error (.exit (Builtin.exitCode c.args)))

theorem unforked_builtin {b : Builtin} (named : Builtin.ofName? c.program = some b)
    (env : Environment) (s : Session) : Unforked c s (b.run env c.args s) := by
  have entered : c.program = "cd" → ∀ path failure,
      (failure = .homeUnset ∨ ∃ path, failure = .invalidPath path) →
      Unforked c s (Builtin.enterDirectory s path failure) := by
    intro cd path failure kind
    unfold Builtin.enterDirectory
    split
    · exact .moved _ cd
    · exact .unmoved cd kind
  unfold Builtin.ofName? at named
  split_ifs at named with cd status exit <;> cases named
  · show Unforked c s (Builtin.runChangeDirectory env c.args s)
    unfold Builtin.runChangeDirectory
    split
    · exact entered cd _ _ (.inr ⟨_, rfl⟩)
    · exact entered cd _ _ (.inl rfl)
    · exact .unmoved cd (.inl rfl)
  · exact .told status
  · exact .left exit

theorem unforked_dispatch (childless : ¬ c.NeedsChild) (env : Environment)
    (meanwhile : List Event) (s : Session) : Unforked c s (s.dispatch env c meanwhile) := by
  rw [dispatch_eq]
  split <;> rename_i silent
  · exact .idle (Command.program_foreign silent)
  · split <;> rename_i named
    · exact unforked_builtin named env s
    · rw [Bool.or_eq_true, not_or, Bool.not_eq_true, Bool.not_eq_true] at silent
      have foreign := Builtin.ofName?_eq_none_iff.1 named
      cases passed : c.programArgv with
      | ok argv =>
        exact absurd (Command.needsChild_iff.2 ⟨silent.1, silent.2, named, argv, passed⟩) childless
      | error e =>
        rw [spawn_eq, passed]
        unfold Command.programArgv at passed
        split at passed <;> cases passed
        exact .refused _ foreign

theorem dispatch_of_needsChild (needs : c.NeedsChild) (env : Environment) (meanwhile : List Event)
    (s : Session) : s.dispatch env c meanwhile = s.spawn env c meanwhile := by
  obtain ⟨present, spoken, foreign, -⟩ := Command.needsChild_iff.1 needs
  rw [dispatch_eq, present, spoken, foreign]
  rfl

/-- Between `s` and `s'` nothing has changed but, perhaps, the working directory and what has been
said: not the jobs, the last status and the flags, nor any file, open file or child. -/
structure Spares (s s' : Session) : Prop where
  options : s'.options = s.options
  jobs : s'.jobs = s.jobs
  lastStatus : s'.lastStatus = s.lastStatus
  flags : s'.flags = s.flags
  descriptors : s'.descriptors = s.descriptors
  machine : s'.machine = { s.machine with
    cwd := s'.machine.cwd, transcript := s'.machine.transcript }

theorem Unforked.spares {result : Session × Outcome} (unforked : Unforked c s result) :
    Spares s result.1 := by
  cases unforked <;> exact ⟨rfl, rfl, rfl, rfl, rfl, rfl⟩

/-- What is said about a command that gets no child: the last status, to those who ask for it. -/
theorem Unforked.transcript {result : Session × Outcome} (unforked : Unforked c s result) :
    result.1.machine.transcript = s.machine.transcript ++
      if c.program = "status" then [.said (.status s.lastStatus)] else [] := by
  cases unforked with
  | idle foreign => simp_all
  | refused word foreign => simp_all
  | moved cwd named => simp [named]
  | unmoved named _ => simp [named]
  | told named =>
    rw [if_pos named]
    rfl
  | left named => simp [named]

/-- No error that a command without a child ends in is that the system has refused one, and only
`exit` ends the loop. -/
theorem Unforked.error {result : Session × Outcome} (unforked : Unforked c s result) :
    (∀ e, result.2 ≠ .error (.forkFailed e)) ∧
      ∀ code, result.2 = .error (.exit code) ↔ c.program = "exit" ∧ code = Builtin.exitCode c.args := by
  cases unforked with
  | idle foreign => simp_all
  | refused word foreign => simp_all
  | moved cwd named => simp [named]
  | unmoved named kind => rcases kind with rfl | ⟨path, rfl⟩ <;> simp [named]
  | told named => simp [named]
  | left named => simp [named, eq_comm]

theorem Unforked.not_triesToFork {result : Session × Outcome} (unforked : Unforked c s result) :
    ¬ TriesToFork s result := by
  have told := unforked.transcript
  have granted := unforked.error.1
  intro tries
  cases tries with
  | made made =>
    obtain ⟨background, during, grown⟩ := made
    rw [told] at grown
    have added := List.append_cancel_left grown
    split at added <;> cases added
  | refused => exact granted _ rfl

/-- Only `cd` changes the working directory. -/
theorem Unforked.cwd {result : Session × Outcome} (unforked : Unforked c s result) :
    result.1.machine.cwd = s.machine.cwd ∨ c.program = "cd" ∧ result.2 = .ok := by
  cases unforked with
  | moved cwd named => exact .inr ⟨named, rfl⟩
  | _ => exact .inl rfl

/-- The system is asked for a child exactly if the first argument of a command is no comment and no
built-in command and each argument can be handed to a program. In every other case, whatever
redirections the command carries and wherever it is to run, the shell, its files and its children are
as they were: only `cd` changes the working directory, and only when it succeeds, only `status` is
answered, and only `exit` ends the loop. -/
theorem tries_to_fork_iff (env : Environment) (c : Command) (meanwhile : List Event) (s : Session) :
    let result := s.dispatch env c meanwhile
    (TriesToFork s result ↔ c.NeedsChild) ∧
      (¬ c.NeedsChild → Spares s result.1 ∧
        (result.1.machine.cwd = s.machine.cwd ∨ c.program = "cd" ∧ result.2 = .ok) ∧
        (result.1.machine.transcript = s.machine.transcript ++
          if c.program = "status" then [.said (.status s.lastStatus)] else []) ∧
        ∀ code, result.2 = .error (.exit code) ↔
          c.program = "exit" ∧ code = Builtin.exitCode c.args) := by
  intro result
  have without : ¬ c.NeedsChild → Unforked c s result := fun childless =>
    unforked_dispatch childless env meanwhile s
  refine ⟨⟨fun tries => ?_, fun needs => ?_⟩, fun childless => ?_⟩
  · by_contra childless
    exact (without childless).not_triesToFork tries
  · obtain ⟨-, -, -, argv, passable⟩ := Command.needsChild_iff.1 needs
    have spawned : result = s.spawn env c meanwhile := dispatch_of_needsChild needs env meanwhile s
    rw [spawned]
    exact triesToFork_spawn passable meanwhile
  · have unforked := without childless
    exact ⟨unforked.spares, unforked.cwd, unforked.transcript, unforked.error.2⟩

/-- A redirection and a background marker are lost on a built-in command, and an argument that no
program can take is found before the redirection of its command is looked at. -/
theorem tries_to_fork_iff_of_redirected :
    let s := memoryShell 1
    let asking : Command := { argv := ["status"], output := some "out", background := true }
    let torn : Command := { argv := ["echo", "\x00"], output := some "out" }
    Command.parse (s.context memoryEnvironment) "status > out &" = .ok asking ∧
      Command.parse (s.context memoryEnvironment) "echo > out \x00" = .ok torn ∧
      ¬ TriesToFork s (s.dispatch memoryEnvironment asking []) ∧
      Spares s (s.dispatch memoryEnvironment asking []).1 ∧
      ¬ TriesToFork s (s.dispatch memoryEnvironment torn []) ∧
      Spares s (s.dispatch memoryEnvironment torn []).1 := by
  intro s asking torn
  have builtin : ¬ asking.NeedsChild := by
    rintro ⟨name, args, words, -, foreign, -⟩
    cases words
    simp at foreign
  have impassable : ¬ torn.NeedsChild := by
    rintro ⟨name, args, words, -, -, passable⟩
    cases words
    exact passable "\x00" (by simp) (by decide)
  obtain ⟨tries, rest⟩ := tries_to_fork_iff memoryEnvironment asking [] s
  obtain ⟨tries', rest'⟩ := tries_to_fork_iff memoryEnvironment torn [] s
  exact ⟨by decide +kernel, by decide +kernel, mt tries.1 builtin, (rest builtin).1,
    mt tries'.1 impassable, (rest' impassable).1⟩

end Session

end JobShell
