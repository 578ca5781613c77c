import JobShell.Interpreter

/-!
# Over an output that takes everything

With an output that refuses nothing no write of the main loop fails. What the shell does over it is
spelled out here once, function by function, without the errors of writes.
-/

namespace JobShell

namespace Session

variable {s : Session}

theorem sayAll_eq (messages : List Message) (s : Session) :
    s.sayAll messages = { s with machine := { s.machine with
      transcript := s.machine.transcript ++ messages.map .said } } := by
  induction messages generalizing s with
  | nil => simp [sayAll]
  | cons message messages ih =>
    show (s.say message).sayAll messages = _
    rw [ih]
    simp [say, record, Machine.record]

@[simp]
theorem sayOn_sound (s : Session) (message : Message) :
    s.sayOn .sound message = (s.say message, .ok) :=
  rfl

@[simp]
theorem sayAllOn_sound (messages : List Message) (s : Session) :
    s.sayAllOn .sound messages = (s.sayAll messages, .ok) := by
  induction messages generalizing s with
  | nil => rfl
  | cons message messages ih => exact ih (s.say message)

@[simp]
theorem reportOn_sound (s : Session) (error : ShellError) :
    s.reportOn .sound error = s.report error := by
  unfold reportOn
  split <;> rfl

end Session

namespace Session

variable {s : Session}

/-! ## Commands -/

theorem noteEnd_error (s : Session) (e : Errno) : s.noteEnd (.error e) = (s, .error (.system e)) :=
  rfl

theorem noteEnd_exited (s : Session) (code : Int) :
    s.noteEnd (.ok (.exited code)) = ({ s with lastStatus := .exited code }, .ok) :=
  rfl

theorem noteEnd_signaled (s : Session) (n : Signal) :
    s.noteEnd (.ok (.signaled n)) =
      ({ s.say (.interrupted (.signaled n)) with lastStatus := .signaled n }, .ok) :=
  rfl

/-- Whatever can be told of an end is noted. -/
theorem noteEnd_ok (s : Session) (how : Termination) : (s.noteEnd (.ok how)).2 = .ok := by
  cases how <;> rfl

/-- The wait for a foreground child, with its end noted. -/
theorem awaitForeground_eq_noteEnd (s : Session) (pid : Pid) :
    s.awaitForeground pid = match s.waitFor pid with
      | (s, none) => (s, .stuck pid)
      | (s, some result) => ((s.untrack pid).setWaiting false).noteEnd result :=
  rfl

/-- A command that needs a child, over a sound output. -/
theorem spawn_eq (env : Environment) (c : Command) (meanwhile : List Event) (s : Session) :
    s.spawn env c meanwhile = match c.programArgv with
      | .error e => (s, .error e)
      | .ok argv =>
        if (if c.background then s else s.setWaiting true).refusesProcesses env then
          ((if c.background then s else s.setWaiting true).setWaiting false,
            .error (.forkFailed .tryAgain))
        else carryOut env c argv meanwhile (if c.background then s else s.setWaiting true) := by
  unfold spawn spawnOn
  cases c.programArgv <;> rfl

/-- A command without words and a comment do nothing; the others are built in or need a child. -/
theorem dispatch_eq (env : Environment) (c : Command) (meanwhile : List Event) (s : Session) :
    s.dispatch env c meanwhile =
      if c.isBlank || c.isComment then (s, .ok)
      else match Builtin.ofName? c.program with
        | some builtin => builtin.run env c.args s
        | none => s.spawn env c meanwhile :=
  rfl

/-! ## Lines -/

theorem handleLine_eq (env : Environment) (line : String) (meanwhile : List Event) (s : Session) :
    s.handleLine env line meanwhile = match Command.parse (s.context env) line with
      | .error e => (s, .error e)
      | .ok c => s.dispatch env c meanwhile :=
  rfl

theorem handlePiece_eq (env : Environment) (piece : Bytes) (meanwhile : List Event) (s : Session) :
    s.handlePiece env piece meanwhile = match Line.accept s.options piece with
      | .error e => (s, .error e)
      | .ok line => s.handleLine env line meanwhile :=
  rfl

theorem showNoticesOn_sound (s : Session) : s.showNoticesOn .sound =
    (({ s with flags := s.flags.takeNotices.1 }).sayAll (s.flags.pending.map Message.notice), .ok) :=
  sayAllOn_sound _ _

/-- The notices that were held back, over a sound output. -/
theorem showNotices_eq (s : Session) :
    s.showNotices =
      ({ s with flags := s.flags.takeNotices.1 }).sayAll (s.flags.pending.map Message.notice) :=
  congrArg Prod.fst s.showNoticesOn_sound

/-- What comes before a read is shown. -/
theorem openOn_sound (s : Session) :
    s.openOn .sound = (s.showNotices.say (.prompt s.options.prompt), .ok) := by
  have shown : s.showNoticesOn .sound = (s.showNotices, .ok) := by
    rw [showNoticesOn_sound, showNotices_eq]
  have kept : s.showNotices.options = s.options := by rw [showNotices_eq, sayAll_eq]
  rw [openOn, shown]
  dsimp only
  rw [sayOn_sound, kept]

/-- A step over a sound output: only the line itself can come to an error. -/
theorem step_eq (env : Environment) (r : Reading) (s : Session) :
    s.step env r = match r.piece with
      | none => (s.prompted r.waits, .error (.exit 0))
      | some piece =>
        ((s.prompted r.waits).record (.taken piece)).handlePiece env piece r.meanwhile := by
  unfold step stepOn
  rw [openOn_sound]
  rfl

/-! ## Rounds -/

/-- A turn of the reaper, over a sound output. -/
theorem reapChild_eq (s : Session) (pid : Pid) (how : Termination) :
    s.reapChild pid how = match how.decode with
      | .error e => (s.collect pid, .error (.system e))
      | .ok how => (((s.collect pid).say (.done pid how)).untrack pid, .ok) :=
  rfl

/-- Each turn of the reaper looks for a dead child after what has happened in between. -/
theorem drain_eq (between : List (List Event)) (s : Session) :
    s.drain between = match (s.applyAll (between.head?.getD [])).machine.children.ready? with
      | none => (s.applyAll (between.head?.getD []), .ok)
      | some (pid, how) =>
        if ((s.applyAll (between.head?.getD [])).reapChild pid how).2 = .ok then
          ((s.applyAll (between.head?.getD [])).reapChild pid how).1.drain between.tail
        else (s.applyAll (between.head?.getD [])).reapChild pid how := by
  rw [drain, drainOn]
  dsimp only
  split <;> rename_i ready <;> rw [ready] <;> rfl

/-- The pass after a line, with what happens before it starts and between its turns. -/
theorem afterLineOn_sound (gap : List Event) (between : List (List Event)) (s : Session) :
    s.afterLineOn .sound gap between = match s.flags.takeChildEnded with
      | (_, false) => s
      | (flags, true) =>
        match (({ s with flags }).applyAll gap).drain between with
        | (s, .error e) => s.report e
        | (s, _) => s := by
  unfold afterLineOn
  simp only [reportOn_sound]
  rfl

/-- The pass after a line where nothing happens meanwhile. -/
theorem afterLine_eq_reap (s : Session) :
    s.afterLine = match s.flags.takeChildEnded with
      | (_, false) => s
      | (flags, true) =>
        match ({ s with flags }).reap with
        | (s, .error e) => s.report e
        | (s, _) => s :=
  s.afterLineOn_sound [] []

/-- A round over a sound output. -/
theorem round_eq (env : Environment) (r : Reading) (s : Session) :
    s.round env r = match s.step env r with
      | (s, .ok) => (s.afterLine, none)
      | (s, .error (.exit code)) => ((s.leave code).1, some (s.leave code).2)
      | (s, .error e) => ((s.report e).afterLine, none)
      | (s, .stuck pid) => (s, some (.stuck pid)) := by
  unfold round roundOn step
  simp only [reportOn_sound]
  rfl

end Session

end JobShell
