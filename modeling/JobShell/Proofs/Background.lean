import JobShell.Proofs.Comments
import JobShell.Proofs.Parts
import JobShell.Proofs.Rounds

/-!
# What runs in the background

A command that is run in a child is announced and left alone, or it is waited for. Which of the two
follows from its last argument and from how often the mode has changed until then.

* `Command.background_iff`: what makes a parsed command one for the background.
* `announced_iff_even_stops`: which children are announced, and that no prompt is shown before any
  other child has ended.
-/

namespace JobShell

/-! ## Arguments -/

namespace Command

/-- The words that are neither redirection markers nor the paths after them. -/
def arguments : List String → List String
  | [] => []
  | [word] => if word = inputMarker ∨ word = outputMarker then [] else [word]
  | word :: next :: rest =>
    if word = inputMarker ∨ word = outputMarker then arguments rest
    else word :: arguments (next :: rest)

/-- The arguments of a line that are kept, a trailing `&` among them. -/
def keptArguments (maxArgs : Nat) (pid : Int) (line : String) : List String :=
  (arguments ((tokens line).map (Text.expandPid pid))).take maxArgs

/-- A marker and the path behind it are no arguments. -/
theorem arguments_of_marker {word path : String} {rest : List String}
    (marker : word = inputMarker ∨ word = outputMarker) :
    arguments (word :: path :: rest) = arguments rest := by
  rw [arguments, if_pos marker]

theorem arguments_of_word {word : String} {rest : List String}
    (word_only : ¬ (word = inputMarker ∨ word = outputMarker)) :
    arguments (word :: rest) = word :: arguments rest := by
  cases rest with
  | nil => simp only [arguments, if_neg word_only]
  | cons next rest => simp only [arguments, if_neg word_only]

/-- The arguments of a line are those of its parts. -/
theorem arguments_parts {parts : List Part} (plain : Plain parts) (more : List String) :
    arguments (parts.flatMap Part.words ++ more) =
      parts.filterMap Part.argument? ++ arguments more := by
  induction parts with
  | nil => rfl
  | cons part parts ih =>
    cases part with
    | argument word =>
      obtain ⟨spoken, others⟩ := List.forall_mem_cons.1 plain
      exact (arguments_of_word spoken).trans (congrArg (word :: ·) (ih others))
    | input path => exact (arguments_of_marker (.inl rfl)).trans (ih plain)
    | output path => exact (arguments_of_marker (.inr rfl)).trans (ih plain)

theorem arguments_flatMap_words {parts : List Part} (plain : Plain parts) :
    arguments (parts.flatMap Part.words) = parts.filterMap Part.argument? := by
  simpa [arguments] using arguments_parts plain []

/-- The arguments of the parsed command are those that are kept. -/
theorem argv_withParts_eq_keptArguments {ctx : Context} {line : String} {parts : List Part}
    (plain : Plain parts) (whole : tokens line = parts.flatMap Part.words) :
    (withParts ctx.maxArgs {} (parts.map (Part.expand ctx.pid))).argv =
      keptArguments ctx.maxArgs ctx.pid line := by
  rw [keptArguments, whole, ← flatMap_words_expand, arguments_flatMap_words (plain_expand _ plain)]
  rfl

/-- Unless a line is a comment, it asks for the background by the last of its arguments that are kept,
and foreground-only mode refuses that. -/
theorem background_iff_of_not_comment {ctx : Context} {line : String} {c : Command}
    (parsed : parse ctx line = .ok c) (spoken : isCommentLine line = false) :
    c.background = true ↔
      (keptArguments ctx.maxArgs ctx.pid line).getLast? = some backgroundMarker ∧
        ctx.foregroundOnly = false := by
  obtain ⟨parts, plain, whole, rfl⟩ := exists_parts_of_parse spoken parsed
  rw [background_ofParts_iff, argv_withParts_eq_keptArguments plain whole]

/-- A command that is no comment does not come from a comment. -/
theorem background_iff {ctx : Context} {line : String} {c : Command}
    (parsed : parse ctx line = .ok c) (spoken : c.isComment = false) :
    c.background = true ↔
      (keptArguments ctx.maxArgs ctx.pid line).getLast? = some backgroundMarker ∧
        ctx.foregroundOnly = false := by
  refine background_iff_of_not_comment parsed ?_
  by_contra comment
  rw [Bool.not_eq_false] at comment
  rw [parse_of_isCommentLine comment] at parsed
  cases parsed
  rw [isComment_of_isCommentLine comment] at spoken
  cases spoken

end Command

/-! ## Commands for a child -/

namespace Session

variable {env : Environment} {s s' p w last : Session} {r : Reading} {piece : Bytes}
variable {line : String} {c : Command} {argv : List String} {meanwhile : List Event}
variable {how : Termination} {pid : Pid}

/-- A piece of input is a line whose command is run in a child, and the system makes the child. -/
structure Spawns (env : Environment) (p : Session) (piece : Bytes) (line : String) (c : Command)
    (argv : List String) : Prop where
  accepted : Line.accept p.options piece = .ok line
  parsed : Command.parse (p.context env) line = .ok c
  present : c.isBlank = false
  spoken : c.isComment = false
  foreign : Builtin.ofName? c.program = none
  passable : c.programArgv = .ok argv
  grants : p.refusesProcesses env = false

/-- Such a line is carried out, with the wait begun if it is for the foreground. -/
theorem Spawns.handlePiece (spawns : Spawns env p piece line c argv) (meanwhile : List Event) :
    p.handlePiece env piece meanwhile =
      (if c.background then p else p.setWaiting true).carryOut env c argv meanwhile := by
  have grants : (if c.background then p else p.setWaiting true).refusesProcesses env = false := by
    split
    · exact spawns.grants
    · exact spawns.grants
  rw [Session.handlePiece_eq, spawns.accepted]
  show p.handleLine env line meanwhile = _
  rw [handleLine_eq, spawns.parsed]
  show p.dispatch env c meanwhile = _
  rw [dispatch_eq, spawns.present, spawns.spoken, spawns.foreign]
  show p.spawn env c meanwhile = _
  rw [spawn_eq, spawns.passable]
  dsimp only
  rw [grants]
  rfl

/-- The child is announced as a background job, and the line is over with nobody waited for. -/
structure Announced (p : Session) (result : Session × Outcome) : Prop where
  outcome : result.2 = .ok
  transcript : ∃ during, result.1.machine.transcript = p.machine.transcript ++
      .forked p.newPid true :: during ++ [.said (.started p.newPid)] ∧
    ∀ q, .collected q ∉ during
  pids : result.1.pids = p.pids ++ [p.newPid]

/-- The child is waited for, no prompt is shown meanwhile and no other child is collected. -/
inductive WaitedFor (p : Session) : Session × Outcome → Prop
  | ended {result : Session × Outcome} {how : Termination} {during : Transcript} :
    result.1.machine.transcript = p.machine.transcript ++
      .forked p.newPid false :: during ++ .collected p.newPid :: how.interruption →
    .died p.newPid how ∈ during → (∀ shown, .said (.prompt shown) ∉ during) →
    (∀ q, .collected q ∉ during) → result.1.pids = p.pids → (∀ pid, result.2 ≠ .stuck pid) →
    WaitedFor p result
  /-- It does not end. -/
  | forever {s' : Session} {during : Transcript} :
    s'.machine.transcript = p.machine.transcript ++ .forked p.newPid false :: during →
    (∀ shown, .said (.prompt shown) ∉ during) → (∀ q, .collected q ∉ during) →
    WaitedFor p (s', .stuck p.newPid)

theorem announced_carryOut (fresh : p.Fresh) (background : c.background = true)
    (allowed : p.flags.foregroundOnly = false) :
    Announced p (p.carryOut env c argv meanwhile) := by
  have made : Made c.background .running p (bear env c argv p).1 := made_bear fresh
  have begun : Begun p ((bear env c argv p).1.settle p.newPid (bear env c argv p).2.1
      (bear env c argv p).2.2) := begun_settle background allowed
  obtain ⟨own, ran⟩ := begun.meanwhile
  obtain ⟨during, grown, -, all⟩ := ran.heard
  rw [carryOut_of_background background]
  refine ⟨rfl, ⟨during, ?_, fun q member => ?_⟩, (made.settled _ _).pids⟩
  · show Machine.transcript _ ++ [_] = _
    exact congrArg (· ++ [_]) (grown.trans (List.append_assoc _ [_] _))
  · cases all _ member

theorem not_mem_of_isMeanwhile {during : Transcript} (all : ∀ e ∈ during, e.isMeanwhile true = true) :
    (∀ shown, .said (.prompt shown) ∉ during) ∧ ∀ q, .collected q ∉ during := by
  refine ⟨fun shown member => ?_, fun q member => ?_⟩
  · cases all _ member
  · cases all _ member

theorem noteEnd_ne_stuck (s : Session) (result : Except Errno Termination) (pid : Pid) :
    (s.noteEnd result).2 ≠ .stuck pid := by
  cases result <;> simp [noteEnd_error, noteEnd_ok]

/-- A foreground child that has died has been waited for. -/
theorem Attended.waitedFor (attended : Attended p w (.dead how)) (fresh : p.Fresh) :
    WaitedFor p ((w.afterWait p.newPid).noteEnd how.decode) := by
  obtain ⟨-, -, -, during, whole, -, all⟩ := attended.heard
  obtain ⟨unprompted, uncollected⟩ := not_mem_of_isMeanwhile all
  have awaited : Awaited (p.setWaiting true) (w.afterWait p.newPid) :=
    (attended.made fresh).awaited (fresh.outside (quiet_setWaiting p true).outside) attended.jobs
  have told := (noteEnd_frame (w.afterWait p.newPid) how).2.2.2
  have collected : (w.afterWait p.newPid).machine.transcript =
      w.machine.transcript ++ [.collected p.newPid] := rfl
  refine .ended ?_ (attended.died fresh whole) unprompted uncollected
    ((quiet_noteEnd _ _).pids.trans awaited.pids) (noteEnd_ne_stuck _ _)
  rw [told, collected, whole]
  simp

/-- A foreground command is waited for, whatever happens meanwhile. -/
theorem waitedFor_carryOut (fresh : p.Fresh) (foreground : c.background = false) :
    WaitedFor p ((p.setWaiting true).carryOut env c argv meanwhile) := by
  have attended : Attended p ((p.setWaiting true).attend env c argv meanwhile)
      (bear env c argv (p.setWaiting true)).2.2 := attended_attend foreground
  have self : ((p.setWaiting true).attend env c argv meanwhile).stateOf (p.setWaiting true).newPid =
      some (bear env c argv (p.setWaiting true)).2.2 := stateOf_attend
  obtain ⟨-, -, -, during, whole, -, all⟩ := attended.heard
  obtain ⟨unprompted, uncollected⟩ := not_mem_of_isMeanwhile all
  rw [carryOut_of_foreground foreground, awaitForeground_eq, self]
  generalize (bear env c argv (p.setWaiting true)).2.2 = state at attended
  cases state with
  | running => exact .forever whole unprompted uncollected
  | stopped pending => exact .forever whole unprompted uncollected
  | dead how => exact attended.waitedFor fresh

/-- In what a run tells after `p`, a foreground child is made, and it has ended before any prompt is
shown; or it does not end, and nothing more is told. -/
def HeldUp (p : Session) (run : Session × Ending) : Prop :=
  ∃ during rest, run.1.machine.transcript =
      p.machine.transcript ++ .forked p.newPid false :: during ++ rest ∧
    (∀ shown, .said (.prompt shown) ∉ during) ∧
    ((∃ how, .died p.newPid how ∈ during) ∨ rest = [] ∧ run.2 = .stuck p.newPid)

/-- What a run goes on to tell after that wait comes after the child's end. -/
theorem WaitedFor.heldUp {run : Session × Ending} (held : WaitedFor p (s.step env r))
    (orderly : s.Orderly) (continues : Continues env s r run) : HeldUp p run := by
  obtain ⟨rest, grown, -⟩ := continues.extends orderly
  generalize step : s.step env r = result at held grown
  cases held with
  | @ended result how during whole died unprompted _ _ _ =>
    refine ⟨during, .collected p.newPid :: how.interruption ++ rest, ?_, unprompted,
      .inl ⟨how, died⟩⟩
    rw [grown, whole, List.append_assoc _ (_ :: how.interruption)]
  | @forever s' during whole unprompted _ =>
    refine ⟨during, [], ?_, unprompted, .inr ⟨rfl, ?_⟩⟩
    · rw [continues.of_stuck step, whole, List.append_nil]
    · rw [continues.of_stuck step]

/-! ## The background -/

/-- No child is both announced and waited for. -/
theorem Announced.not_waitedFor {result : Session × Outcome} (announced : Announced p result) :
    ¬ WaitedFor p result := by
  obtain ⟨during, told, -⟩ := announced.transcript
  intro waited
  cases waited with
  | ended whole _ _ _ _ _ =>
    rw [told, List.append_assoc, List.append_assoc] at whole
    cases List.append_cancel_left whole
  | forever whole _ _ => cases announced.outcome

theorem Spawns.taken (spawns : Spawns env p piece line c argv) :
    Spawns env (p.record (.taken piece)) piece line c argv :=
  ⟨spawns.accepted, spawns.parsed, spawns.present, spawns.spoken, spawns.foreign, spawns.passable,
    spawns.grants⟩

/-- The round in which such a line is taken is the carrying out of its command. -/
theorem Spawns.step (spawns : Spawns env (s.prompted r.waits) piece line c argv)
    (read : r.piece = some piece) :
    let p := (s.prompted r.waits).record (.taken piece)
    s.step env r =
      (if c.background then p else p.setWaiting true).carryOut env c argv r.meanwhile := by
  rw [step_eq, read]
  exact spawns.taken.handlePiece r.meanwhile

theorem Spawns.step_background (spawns : Spawns env (s.prompted r.waits) piece line c argv)
    (read : r.piece = some piece) (background : c.background = true) :
    s.step env r =
      ((s.prompted r.waits).record (.taken piece)).carryOut env c argv r.meanwhile := by
  rw [spawns.step read, background]
  rfl

theorem Spawns.step_foreground (spawns : Spawns env (s.prompted r.waits) piece line c argv)
    (read : r.piece = some piece) (foreground : c.background = false) :
    s.step env r = (((s.prompted r.waits).record (.taken piece)).setWaiting true).carryOut env c argv
      r.meanwhile := by
  rw [spawns.step read, foreground]
  rfl

/-- The mode is the old one after an even number of terminal stops. -/
theorem even_stops_iff (t : Transcript) : t.flips = false ↔ t.stops % 2 = 0 := by
  unfold Transcript.flips
  rw [decide_eq_false_iff_not]
  omega

/-- A command that is run in a child is announced as a background job, and not waited for, exactly if
`&` is the last of its arguments that are kept and the shell has received an even number of terminal
stops before the line was taken. Otherwise the shell shows no prompt before that child has ended, and
collects no other child in its stead. -/
theorem announced_iff_even_stops {options : Options} {tree : FileTree} {cwd : Place} {nextPid : Pid}
    {input : Bytes}
    (reach : Reaches env (initial options tree cwd nextPid input) s) (read : r.piece = some piece)
    (spawns : Spawns env (s.prompted r.waits) piece line c argv) :
    let p := (s.prompted r.waits).record (.taken piece)
    let wanted := (Command.keptArguments options.maxArgs env.pid line).getLast? =
      some Command.backgroundMarker ∧ p.machine.transcript.stops % 2 = 0
    (Announced p (s.step env r) ↔ wanted) ∧
      (¬ wanted → WaitedFor p (s.step env r) ∧
        (∀ rs, HeldUp p (s.listen env (r :: rs))) ∧
        ∀ (before : Session) (rs : List Reading), before.supply r = (s, true) →
          HeldUp p (before.listenShared env (r :: rs))) := by
  intro p wanted
  have start := orderly_initial options tree cwd nextPid input
  have orderly := reach.orderly start
  have before := reach.steady (steady_initial options tree cwd nextPid input)
  have steady := ((prompted_of_idle before.idle r.waits).steady before).taken piece
  have fresh : p.Fresh := (orderly.outside (outside_taken r.waits piece s)).fresh
  have step : s.step env r =
      (if c.background then p else p.setWaiting true).carryOut env c argv r.meanwhile :=
    spawns.step read
  -- The mode under which the line is parsed is the parity of the stops that have been told so far.
  have asked : c.background = true ↔ wanted := by
    rw [Command.background_iff spawns.taken.parsed spawns.spoken]
    show (_ ∧ p.flags.foregroundOnly = false) ↔ _
    rw [steady.mode, even_stops_iff]
    show (Command.keptArguments p.options.maxArgs _ _).getLast? = _ ∧ _ ↔ _
    rw [steady.options]
    rfl
  have waited : c.background = false → WaitedFor p (s.step env r) := by
    intro foreground
    rw [step, foreground]
    exact waitedFor_carryOut fresh foreground
  refine ⟨?_, fun unwanted => ?_⟩
  · rw [← asked]
    cases background : c.background with
    | true =>
      have allowed : p.flags.foregroundOnly = false :=
        Command.foregroundOnly_of_background spawns.taken.parsed background
      rw [step, background, if_pos rfl]
      exact iff_of_true (announced_carryOut fresh background allowed) rfl
    | false =>
      refine iff_of_false (fun announced => ?_) Bool.false_ne_true
      exact announced.not_waitedFor (waited background)
  · have held := waited (by simpa [← asked] using unwanted)
    exact ⟨held, fun rs => held.heldUp orderly (continues_listen env s r rs), fun start rs supplied =>
      held.heldUp orderly (continues_listenShared supplied env rs)⟩

/-- A terminal stop during a wait and another one at the prompt: the job is in the background. With
only the first one, the same line is waited for. -/
theorem announced_iff_even_stops_after_wait :
    let s := (memoryShell 2).rounds memoryEnvironment [lineAfter "tstp 1" []]
    let even := lineAfter "exitwith 3 &" [.signal .terminalStop]
    let odd := lineAfter "exitwith 3 &" []
    let piece := Text.encode "exitwith 3 &"
    Announced ((s.prompted even.waits).record (.taken piece)) (s.step memoryEnvironment even) ∧
      WaitedFor ((s.prompted odd.waits).record (.taken piece)) (s.step memoryEnvironment odd) ∧
      HeldUp ((s.prompted odd.waits).record (.taken piece)) (s.listen memoryEnvironment [odd]) := by
  intro s even odd piece
  have reach : Reaches memoryEnvironment (memoryShell 2) s := reaches_rounds (by decide +kernel)
  have afterTwo : Spawns memoryEnvironment (s.prompted even.waits) piece "exitwith 3 &"
      { argv := ["exitwith", "3"], background := true } ["exitwith", "3"] := by
    constructor <;> decide +kernel
  have afterOne : Spawns memoryEnvironment (s.prompted odd.waits) piece "exitwith 3 &"
      { argv := ["exitwith", "3"] } ["exitwith", "3"] := by
    constructor <;> decide +kernel
  have announced := (announced_iff_even_stops reach rfl afterTwo).1.2 (by decide +kernel)
  obtain ⟨waited, held, -⟩ := (announced_iff_even_stops reach rfl afterOne).2 (by decide +kernel)
  exact ⟨announced, waited, held []⟩

end Session
end JobShell
