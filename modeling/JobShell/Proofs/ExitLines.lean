import JobShell.Proofs.Dispatch
import JobShell.Proofs.Hearing
import JobShell.Proofs.Parts

/-!
# Lines that ask to leave

Which lines end the loop, and with which code, can be told from the lines alone: a line does so that
is accepted, can be parsed, and begins with `exit`. Whatever the output refuses, and in whatever
mode the shell is, nothing else that a line can come to does.

* `Line.exitCode?`: which pieces of input ask to leave.
* `firstExit`, `firstExitCode`: the first of some lines that does, and its code.
* `handlePieceOn_exit_iff`: a piece of input ends the loop exactly if it asks to leave.
-/

namespace JobShell

variable {options : Options} {piece : Bytes} {line : String} {c : Command} {code : Int}

/-! ## Lines that ask to leave -/

/-- The code with which a piece of input asks to leave: it is accepted as a line, the line can be
parsed, and its first argument is `exit`. Foreground-only mode makes no difference. -/
def Line.exitCode? (options : Options) (pid : Int) (piece : Bytes) : Option Int :=
  match Line.accept options piece with
  | .error _ => none
  | .ok line =>
    match Command.parse ⟨false, options.maxArgs, pid⟩ line with
    | .error _ => none
    | .ok c => if c.argv.head? = some "exit" then some (Builtin.exitCode c.args) else none

namespace Command

/-- The mode makes no difference to the arguments of a command, nor to whether there is one. -/
theorem map_argv_parse (mode mode' : Bool) (maxArgs : Nat) (pid : Int) (line : String) :
    (parse ⟨mode, maxArgs, pid⟩ line).map argv = (parse ⟨mode', maxArgs, pid⟩ line).map argv := by
  have unmarked : ∀ (mode : Bool) (c : Command), (takeMarker mode c).argv =
      if c.argv.getLast? = some backgroundMarker then c.argv.dropLast else c.argv := by
    intro mode c
    unfold takeMarker
    split <;> rfl
  cases spoken : isCommentLine line with
  | true => rw [parse, parse, if_pos spoken, if_pos spoken]
  | false =>
    obtain ⟨_, -, -, reads⟩ | ⟨_, _, -, -, -, refuses⟩ := parse_cases spoken
    · rw [reads, reads]
      exact congrArg Except.ok ((unmarked mode _).trans (unmarked mode' _).symm)
    · rw [refuses, refuses]

/-- A command is `exit` by its first argument. -/
theorem program_eq_exit_iff : c.program = "exit" ↔ c.argv.head? = some "exit" := by
  unfold program
  cases c.argv with
  | nil => simp
  | cons name args => simp

/-- What the parser refuses is a redirection without a path. -/
theorem parse_error {ctx : Context} {e : ShellError} (refused : parse ctx line = .error e) :
    ∃ marker, e = .missingTarget marker := by
  cases spoken : isCommentLine line with
  | true =>
    rw [parse, if_pos spoken] at refused
    cases refused
  | false =>
    obtain ⟨_, -, -, reads⟩ | ⟨_, marker, -, -, -, refuses⟩ := parse_cases spoken
    · rw [reads] at refused
      cases refused
    · rw [refuses] at refused
      cases refused
      exact ⟨marker, rfl⟩

end Command

/-- A line that cannot be decoded does not ask to leave. -/
theorem Line.accept_error {e : ShellError} (refused : accept options piece = .error e) :
    e ≠ .exit code := by
  unfold accept at refused
  split at refused
  · cases refused
    simp
  · split at refused <;> cases refused
    simp

/-- The line that a piece stands for is parsed in the mode that is on, and may ask to leave. -/
theorem Line.exitCode?_of_parse {mode : Bool} {pid : Int} (accepted : accept options piece = .ok line)
    (parsed : Command.parse ⟨mode, options.maxArgs, pid⟩ line = .ok c) :
    exitCode? options pid piece =
      if c.argv.head? = some "exit" then some (Builtin.exitCode c.args) else none := by
  have same := Command.map_argv_parse mode false options.maxArgs pid line
  rw [parsed] at same
  rw [exitCode?, accepted]
  dsimp only
  cases other : Command.parse ⟨false, options.maxArgs, pid⟩ line with
  | error e =>
    rw [other] at same
    cases same
  | ok c' =>
    rw [other] at same
    have argv : c.argv = c'.argv := Except.ok.inj same
    have args : c.args = c'.args := congrArg List.tail argv
    rw [argv, args]

theorem Line.exitCode?_of_parse_error {mode : Bool} {pid : Int} {e : ShellError}
    (accepted : accept options piece = .ok line)
    (refused : Command.parse ⟨mode, options.maxArgs, pid⟩ line = .error e) :
    exitCode? options pid piece = none := by
  have same := Command.map_argv_parse mode false options.maxArgs pid line
  rw [refused] at same
  rw [exitCode?, accepted]
  dsimp only
  cases other : Command.parse ⟨false, options.maxArgs, pid⟩ line with
  | error e => rfl
  | ok c' =>
    rw [other] at same
    cases same

/-- Where among some lines the first one stands that asks to leave. -/
def firstExit (options : Options) (pid : Int) (lines : List Bytes) : Nat :=
  lines.findIdx fun piece => (Line.exitCode? options pid piece).isSome

/-- The code of the first of some lines that asks to leave, and 0 if there is none. -/
def firstExitCode (options : Options) (pid : Int) (lines : List Bytes) : Int :=
  (lines.findSome? (Line.exitCode? options pid)).getD 0

/-- How many lines come before the first that asks to leave. -/
theorem firstExit_cons (pid : Int) (piece : Bytes) (lines : List Bytes) :
    firstExit options pid (piece :: lines) =
      if (Line.exitCode? options pid piece).isSome then 0 else firstExit options pid lines + 1 := by
  rw [firstExit, List.findIdx_cons]
  cases (Line.exitCode? options pid piece).isSome <;> rfl

/-- The code of the first line that asks to leave. -/
theorem firstExitCode_cons (pid : Int) (piece : Bytes) (lines : List Bytes) :
    firstExitCode options pid (piece :: lines) =
      (Line.exitCode? options pid piece).getD (firstExitCode options pid lines) := by
  rw [firstExitCode, List.findSome?_cons]
  cases Line.exitCode? options pid piece <;> rfl

/-- Some line asks to leave. -/
def AskedToLeave (options : Options) (pid : Int) (lines : List Bytes) : Prop :=
  ∃ piece ∈ lines, (Line.exitCode? options pid piece).isSome = true

/-! ## The lines that have been taken -/

/-- The piece of input that an entry tells of. -/
def Entry.taken? : Entry → Option Bytes
  | .taken piece => some piece
  | _ => none

/-- The pieces of input that have been taken as lines. -/
def Transcript.lines (t : Transcript) : List Bytes :=
  t.filterMap Entry.taken?

namespace Transcript

variable {P : Entry → Prop} {t u : Transcript}

/-- The lines taken in two parts of a transcript. -/
theorem lines_append (t u : Transcript) : (t ++ u).lines = t.lines ++ u.lines :=
  List.filterMap_append

/-- Where nothing is taken, the lines stay the same. -/
theorem Extends.lines (grown : t.Extends P u) (untaken : ∀ e, P e → e.taken? = none) :
    u.lines = t.lines := by
  obtain ⟨added, rfl, all⟩ := grown
  have none_taken : Transcript.lines added = [] :=
    List.filterMap_eq_nil_iff.2 fun e member => untaken e (all e member)
  rw [lines_append, none_taken, List.append_nil]

end Transcript

theorem Entry.taken?_of_isMeanwhile {e : Entry} {waiting : Bool}
    (meanwhile : e.isMeanwhile waiting = true) : e.taken? = none := by
  cases e <;> first | rfl | cases meanwhile

namespace Session

variable {out : Output} {env : Environment} {s : Session} {meanwhile : List Event}
variable {r : Reading} {rs : List Reading}

/-- The first of the reads of some lines is that of the first line, or meets the end of input. -/
theorem piece_of_reads {lines : List Bytes}
    (read : (r :: rs).map (·.piece) = lines.map some ++ [none]) :
    (r.piece = none ∧ lines = []) ∨ ∃ piece rest, r.piece = some piece ∧ lines = piece :: rest ∧
      rs.map (·.piece) = rest.map some ++ [none] := by
  cases lines with
  | nil => exact .inl ⟨(List.cons.inj read).1, rfl⟩
  | cons piece rest => exact .inr ⟨piece, rest, (List.cons.inj read).1, rfl, (List.cons.inj read).2⟩

/-- A read that makes the loop leave is that of the first line that asks to, or of the end of input if
none does. -/
theorem firstExit_of_asked {pid : Int} {lines : List Bytes}
    (read : (r :: rs).map (·.piece) = lines.map some ++ [none])
    (asks : r.piece = none ∧ code = 0 ∨
      ∃ piece, r.piece = some piece ∧ Line.exitCode? options pid piece = some code) :
    code = firstExitCode options pid lines ∧
      r.piece.toList = lines.take (firstExit options pid lines + 1) ∧
      [r.piece] = (lines.map some ++ [none]).take (firstExit options pid lines + 1) := by
  rcases piece_of_reads read with ⟨ended, rfl⟩ | ⟨piece, later, here, rfl, -⟩
  · rcases asks with ⟨-, rfl⟩ | ⟨piece, here, -⟩
    · exact ⟨rfl, by simp [ended], by simp [ended]⟩
    · rw [ended] at here
      cases here
  · rcases asks with ⟨ended, -⟩ | ⟨piece', here', asks⟩
    · rw [ended] at here
      cases here
    · cases here.symm.trans here'
      rw [firstExit_cons, firstExitCode_cons, asks]
      exact ⟨rfl, by simp [here], by simp [here]⟩

/-! ## What ends the loop -/

/-- A message is taken, or nothing comes of it but an error. -/
theorem sayOn_cases (out : Output) (s : Session) (message : Message) :
    s.sayOn out message = (s.say message, .ok) ∨
      ∃ detail, s.sayOn out message = (s, .error (.io detail)) := by
  unfold sayOn
  cases out.refuses s.machine.transcript message with
  | none => exact .inl rfl
  | some detail => exact .inr ⟨detail, rfl⟩

/-- The end of a foreground child never asks to leave. -/
theorem noteEndOn_ne_exit (out : Output) (s : Session) (result : Except Errno Termination)
    (code : Int) : (s.noteEndOn out result).2 ≠ .error (.exit code) := by
  cases result with
  | error e => simp [noteEndOn]
  | ok how =>
    cases how with
    | exited code => simp [noteEndOn]
    | signaled n =>
      rw [noteEndOn]
      rcases s.sayOn_cases out (.interrupted (.signaled n)) with taken | ⟨detail, refused⟩
      · rw [taken]
        simp
      · rw [refused]
        simp

/-- A command that is run in a child does not end the loop, whatever becomes of the child. -/
theorem spawnOn_ne_exit (out : Output) (env : Environment) (c : Command) (meanwhile : List Event)
    (s : Session) (code : Int) : (s.spawnOn out env c meanwhile).2 ≠ .error (.exit code) := by
  unfold spawnOn
  cases passed : c.programArgv with
  | error e =>
    unfold Command.programArgv at passed
    split at passed <;> cases passed
    simp
  | ok argv =>
    cases out.refusesFlush s.machine.transcript with
    | some detail => simp
    | none =>
      dsimp only
      generalize (if c.background then s else s.setWaiting true) = p
      split
      · simp
      · unfold carryOutOn
        obtain ⟨ran, descriptors, state⟩ := bear env c argv p
        dsimp only
        split
        · rcases sayOn_cases out ((ran.settle p.newPid descriptors state).track p.newPid)
            (.started p.newPid) with taken | ⟨detail, refused⟩
          · rw [taken]
            simp
          · rw [refused]
            simp
        · unfold awaitForegroundOn
          split
          · simp
          · exact noteEndOn_ne_exit out _ _ code

/-- The built-in `exit` is found under its own name only. -/
theorem ofName?_eq_exit_iff : Builtin.ofName? c.program = some .exit ↔
    c.argv.head? = some "exit" := by
  rw [← Command.program_eq_exit_iff]
  unfold Builtin.ofName?
  split
  · rename_i other
    simp [other]
  · split
    · rename_i other
      simp [other]
    · split <;> simp_all

/-- A command ends the loop exactly if its first argument is `exit`. -/
theorem dispatchOn_exit_iff : (s.dispatchOn out env c meanwhile).2 = .error (.exit code) ↔
    c.argv.head? = some "exit" ∧ code = Builtin.exitCode c.args := by
  rw [← ofName?_eq_exit_iff]
  unfold dispatchOn
  split
  · rename_i silent
    have foreign := Builtin.ofName?_eq_none_iff.2 (Command.program_foreign silent)
    simp [foreign]
  · cases named : Builtin.ofName? c.program with
    | none => simpa using spawnOn_ne_exit out env c meanwhile s code
    | some builtin =>
      cases builtin with
      | changeDirectory =>
        refine iff_of_false ?_ (by simp)
        show (Builtin.runChangeDirectory env c.args s).2 ≠ _
        unfold Builtin.runChangeDirectory Builtin.enterDirectory
        split
        · split <;> simp
        · split <;> simp
        · simp
      | status =>
        refine iff_of_false ?_ (by simp)
        show (s.sayOn out (.status s.lastStatus)).2 ≠ _
        rcases s.sayOn_cases out (.status s.lastStatus) with taken | ⟨detail, refused⟩
        · rw [taken]
          simp
        · rw [refused]
          simp
      | exit => simp [Builtin.runOn, eq_comm]

/-- A piece of input ends the loop exactly if it asks to leave, whatever the output refuses. -/
theorem handlePieceOn_exit_iff :
    (s.handlePieceOn out env piece meanwhile).2 = .error (.exit code) ↔
      Line.exitCode? s.options env.pid piece = some code := by
  unfold handlePieceOn
  cases accepted : Line.accept s.options piece with
  | error e =>
    have unasked : Line.exitCode? s.options env.pid piece = none := by
      rw [Line.exitCode?, accepted]
    rw [unasked]
    refine iff_of_false (fun asked => ?_) (by simp)
    exact Line.accept_error accepted (Outcome.error.inj asked)
  | ok line =>
    show (s.handleLineOn out env line meanwhile).2 = _ ↔ _
    unfold handleLineOn
    cases parsed : Command.parse (s.context env) line with
    | error e =>
      obtain ⟨marker, rfl⟩ := Command.parse_error parsed
      rw [Line.exitCode?_of_parse_error accepted parsed]
      simp
    | ok c =>
      rw [Line.exitCode?_of_parse accepted parsed]
      show (s.dispatchOn out env c meanwhile).2 = _ ↔ _
      rw [dispatchOn_exit_iff]
      split <;> rename_i asked <;> simp [asked, eq_comm]

end Session

end JobShell
