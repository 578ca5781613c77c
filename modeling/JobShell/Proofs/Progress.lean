import JobShell.Proofs.ExitLines
import JobShell.Proofs.ModeDisplay
import Mathlib.Logic.Function.Iterate

/-!
# How far the loop comes

Any write of the main loop may be refused. A round whose notices or prompt are refused reads nothing,
and the next round begins where it has begun. Every other round takes a piece of input, whatever else
is refused in it, and ends the loop only if that piece asks to leave or is the end of input, or if a
foreground child does not end. So there is one way only in which the loop can go on for ever: from some
round on it does not get its prompt shown any more.

* `turned_roundOn`: what a round comes to.
* `Stands.advance`, `stands_iterate`: after any number of rounds the lines taken are the first ones,
  and all but the last of them do not ask to leave.
* `ends_or_stalls`, `ends_of_takesPrompts`: when the loop ends.
* `now_iterate_eq`: what comes after a line that asks to leave makes no difference.
-/

namespace JobShell

namespace Session

variable {out : Output} {env : Environment} {s s' s'' t m : Session} {r : Reading}
variable {reads : List Reading} {pieces more lines : List Bytes} {pid : Pid} {code : Int}
variable {result : Session × Outcome}

/-! ## Taking lines -/

/-- Between `s` and `s'` the shell has taken some pieces of input as lines, in this order, and its
options have stayed the same. -/
structure Takes (pieces : List Bytes) (s s' : Session) : Prop where
  options : s'.options = s.options
  lines : s'.machine.transcript.lines = s.machine.transcript.lines ++ pieces

theorem Takes.refl (s : Session) : Takes [] s s :=
  ⟨rfl, (List.append_nil _).symm⟩

theorem Takes.trans (first : Takes pieces s s') (second : Takes more s' s'') :
    Takes (pieces ++ more) s s'' :=
  ⟨second.options.trans first.options, by rw [second.lines, first.lines, List.append_assoc]⟩

/-- After the pieces nothing more is taken. -/
theorem Takes.rest (first : Takes pieces s s') (second : Takes [] s' s'') : Takes pieces s s'' :=
  List.append_nil pieces ▸ first.trans second

/-- Nothing is taken where the transcript tells of nothing taken. -/
theorem takes_of_extends (options : s'.options = s.options)
    (grown : s.machine.transcript.Extends (fun e => e.taken? = none) s'.machine.transcript) :
    Takes [] s s' :=
  ⟨options, (grown.lines fun _ => id).trans (List.append_nil _).symm⟩

theorem takes_of_heard {P : Entry → Prop} (heard : Heard P s s')
    (untaken : ∀ e, P e → e.taken? = none) : Takes [] s s' :=
  takes_of_extends heard.options (heard.extends.mono untaken)

theorem takes_of_meanwhile (meanwhile : Meanwhile s s') : Takes [] s s' :=
  takes_of_heard meanwhile fun _ => Entry.taken?_of_isMeanwhile

theorem takes_record {e : Entry} (untaken : e.taken? = none) : Takes [] s (s.record e) :=
  takes_of_extends rfl (.single untaken)

/-- What the shell has written takes no line, and comes to no error but that of a write. -/
inductive Written (s : Session) : Session × Outcome → Prop
  | whole {t : Session} : Takes [] s t → Written s (t, .ok)
  | refused {t : Session} (detail : String) : Takes [] s t → Written s (t, .error (.io detail))

/-- Whether or not a write is refused, it takes no line. -/
theorem Written.takes (written : Written s result) : Takes [] s result.1 := by
  cases written <;> assumption

theorem written_sayOn (out : Output) (s : Session) (message : Message) :
    Written s (s.sayOn out message) := by
  rcases s.sayOn_cases out message with taken | ⟨detail, refused⟩
  · rw [taken]
    exact .whole (takes_record rfl)
  · rw [refused]
    exact .refused detail (.refl s)

/-- What comes before a write may be of any kind, if it takes no line. -/
theorem Written.after (first : Takes [] s s') (later : Written s' result) : Written s result := by
  cases later with
  | whole rest => exact .whole (first.rest rest)
  | refused detail rest => exact .refused detail (first.rest rest)

/-- Some messages are written, up to the first that is refused. -/
theorem written_sayAllOn (out : Output) (messages : List Message) (s : Session) :
    Written s (sayAllOn out messages s) := by
  induction messages generalizing s with
  | nil => exact .whole (.refl s)
  | cons message messages ih =>
    have written := written_sayOn out s message
    rw [sayAllOn]
    generalize s.sayOn out message = result at written
    cases written with
    | whole first => exact (ih _).after first
    | refused detail first => exact .refused detail first

/-- What comes before a read takes no line. -/
theorem written_openOn (out : Output) (s : Session) : Written s (s.openOn out) := by
  have noted : Takes [] s { s with flags := s.flags.takeNotices.1 } :=
    ⟨rfl, (List.append_nil _).symm⟩
  have shown : Written s (s.showNoticesOn out) := (written_sayAllOn out _ _).after noted
  unfold openOn
  generalize s.showNoticesOn out = result at shown
  cases shown with
  | whole first => exact (written_sayOn out _ _).after first
  | refused detail first => exact .refused detail first

/-- A report takes no line, and its own failure is passed over. -/
theorem takes_reportOn (out : Output) (s : Session) (e : ShellError) :
    Takes [] s (s.reportOn out e) := by
  unfold reportOn
  split
  · exact (written_sayOn out s (.failure e)).takes
  · exact takes_record rfl

/-! ## A line -/

/-- The shell waits for a foreground child that does not die. -/
structure WaitsFor (s : Session) (pid : Pid) : Prop where
  foreground : .forked pid false ∈ s.machine.transcript
  alive : ∃ state, s.stateOf pid = some state ∧ state.IsAlive

/-- What a line comes to takes no other line, and the shell waits for ever only for a foreground child
that does not end. -/
structure ComesTo (s : Session) (result : Session × Outcome) : Prop where
  takes : Takes [] s result.1
  held : ∀ pid, result.2 = .stuck pid → WaitsFor result.1 pid

/-- A line comes to what its last part comes to. -/
theorem ComesTo.after (first : Takes [] s s') (later : ComesTo s' result) : ComesTo s result :=
  ⟨first.rest later.takes, later.held⟩

theorem comesTo_ok (takes : Takes [] s s') : ComesTo s (s', .ok) :=
  ⟨takes, nofun⟩

theorem comesTo_error (takes : Takes [] s s') (e : ShellError) : ComesTo s (s', .error e) :=
  ⟨takes, nofun⟩

/-- A write is never what the shell is stuck in. -/
theorem Written.comesTo (written : Written s result) : ComesTo s result := by
  cases written with
  | whole takes => exact comesTo_ok takes
  | refused detail takes => exact comesTo_error takes _

/-- The end of a foreground child is noted, and told if a signal was its cause. -/
theorem comesTo_noteEndOn (out : Output) (s : Session) (result : Except Errno Termination) :
    ComesTo s (s.noteEndOn out result) := by
  cases result with
  | error e => exact comesTo_error (.refl s) _
  | ok how =>
    cases how with
    | exited code => exact comesTo_ok ⟨rfl, (List.append_nil _).symm⟩
    | signaled n =>
      have written := written_sayOn out s (.interrupted (.signaled n))
      rw [noteEndOn]
      generalize s.sayOn out (.interrupted (.signaled n)) = result at written
      cases written with
      | whole first => exact comesTo_ok ⟨first.options, first.lines⟩
      | refused detail first => exact comesTo_error first _

/-- The shell waits for ever only if the child it waits for is alive. -/
theorem comesTo_awaitForegroundOn {state : ChildState} (out : Output)
    (foreground : .forked pid false ∈ s.machine.transcript) (there : s.stateOf pid = some state) :
    ComesTo s (s.awaitForegroundOn out pid) := by
  obtain ⟨⟨p, own, descriptors, state', stopping⟩, found, same⟩ := Option.map_eq_some_iff.1 there
  cases same
  have waits : state'.IsAlive → ComesTo s (s, .stuck pid) := fun alive =>
    ⟨.refl s, fun q same => by
      cases same
      exact ⟨foreground, _, there, alive⟩⟩
  unfold awaitForegroundOn waitFor
  rw [found]
  cases state' with
  | running => exact waits nofun
  | stopped pending => exact waits nofun
  | dead how =>
    have collected : Takes [] s (((s.collect pid).untrack pid).setWaiting false) :=
      takes_of_extends rfl (.single rfl)
    exact .after collected (comesTo_noteEndOn out _ _)

/-- A background child is made, settled and tracked, and its announcement may be refused. -/
theorem comesTo_background {c : Command} (background : c.background = true) (out : Output)
    (env : Environment) (argv : List String) (meanwhile : List Event) (s : Session) :
    ComesTo s (s.carryOutOn out env c argv meanwhile) := by
  have forked : Takes [] s (s.addChild (Launch.dispositions env c) c.background).1 :=
    takes_of_extends rfl (.single rfl)
  have ran : Takes [] _ (bear env c argv s).1 :=
    takes_of_meanwhile (meanwhile_runChild env c argv _)
  have settled : Takes [] (bear env c argv s).1 ((bear env c argv s).1.settle s.newPid
      (bear env c argv s).2.1 (bear env c argv s).2.2) :=
    takes_of_meanwhile (meanwhile_changeChild _ _ _)
  have tracked : Takes [] s (((bear env c argv s).1.settle s.newPid (bear env c argv s).2.1
      (bear env c argv s).2.2).track s.newPid) :=
    let before := (forked.rest ran).rest settled
    ⟨before.options, before.lines⟩
  have whole : s.carryOutOn out env c argv meanwhile =
      (((bear env c argv s).1.settle s.newPid (bear env c argv s).2.1
        (bear env c argv s).2.2).track s.newPid).sayOn out (.started s.newPid) :=
    if_pos background
  rw [whole]
  exact .after tracked (written_sayOn out _ _).comesTo

/-- A foreground child is attended to and waited for, and the line about its end may be refused. -/
theorem comesTo_foreground {c : Command} (foreground : c.background = false) (out : Output)
    (env : Environment) (argv : List String) (meanwhile : List Event) (s : Session) :
    ComesTo (s.setWaiting true) ((s.setWaiting true).carryOutOn out env c argv meanwhile) := by
  have attended : Attended s ((s.setWaiting true).attend env c argv meanwhile)
      (bear env c argv (s.setWaiting true)).2.2 := attended_attend foreground
  obtain ⟨options, -, -, during, grown, -, all⟩ := attended.heard
  have takes : Takes [] (s.setWaiting true)
      ((s.setWaiting true).attend env c argv meanwhile) := by
    refine takes_of_extends options ⟨_, grown, fun e member => ?_⟩
    rcases List.mem_cons.1 member with rfl | meanwhile
    · rfl
    · exact Entry.taken?_of_isMeanwhile (all e meanwhile)
  have forked : .forked s.newPid false ∈
      ((s.setWaiting true).attend env c argv meanwhile).machine.transcript := by
    rw [grown]
    simp
  have whole : (s.setWaiting true).carryOutOn out env c argv meanwhile =
      ((s.setWaiting true).attend env c argv meanwhile).awaitForegroundOn out s.newPid :=
    if_neg (by simp [foreground])
  rw [whole]
  exact .after takes (comesTo_awaitForegroundOn out forked stateOf_attend)

theorem comesTo_carryOutOn (out : Output) (env : Environment) (c : Command) (argv : List String)
    (meanwhile : List Event) (s : Session) :
    ComesTo (if c.background then s else s.setWaiting true)
      ((if c.background then s else s.setWaiting true).carryOutOn out env c argv meanwhile) := by
  cases background : c.background with
  | true => exact comesTo_background background out env argv meanwhile s
  | false => exact comesTo_foreground background out env argv meanwhile s

/-- A command that needs a child comes to an error, or to what its child comes to. -/
theorem comesTo_spawnOn (out : Output) (env : Environment) (c : Command) (meanwhile : List Event)
    (s : Session) : ComesTo s (s.spawnOn out env c meanwhile) := by
  have begun : Takes [] s (if c.background then s else s.setWaiting true) := by
    split
    · exact .refl s
    · exact ⟨rfl, (List.append_nil _).symm⟩
  unfold spawnOn
  split
  · exact comesTo_error (.refl s) _
  · exact comesTo_error (.refl s) _
  · rename_i argv _ _
    dsimp only
    by_cases refuses : (if c.background then s else s.setWaiting true).refusesProcesses env = true
    · rw [if_pos refuses]
      have lowered : Takes [] s ((if c.background then s else s.setWaiting true).setWaiting false) :=
        ⟨begun.options, begun.lines⟩
      exact comesTo_error lowered _
    · rw [if_neg refuses]
      exact .after begun (comesTo_carryOutOn out env c argv meanwhile s)

/-- The built-in commands take no line, even where what they say is refused. -/
theorem comesTo_builtin (out : Output) (env : Environment) (args : List String) (b : Builtin)
    (s : Session) : ComesTo s (b.runOn out env args s) := by
  have entered : ∀ path failure, ComesTo s (Builtin.enterDirectory s path failure) := by
    intro path failure
    unfold Builtin.enterDirectory
    split
    · exact comesTo_ok ⟨rfl, (List.append_nil _).symm⟩
    · exact comesTo_error (.refl s) _
  cases b with
  | changeDirectory =>
    show ComesTo s (Builtin.runChangeDirectory env args s)
    unfold Builtin.runChangeDirectory
    split
    · exact entered _ _
    · exact entered _ _
    · exact comesTo_error (.refl s) _
  | status => exact (written_sayOn out s _).comesTo
  | exit => exact comesTo_error (.refl s) _

/-- A piece of input is decoded, parsed and carried out. -/
theorem comesTo_handlePieceOn (out : Output) (env : Environment) (piece : Bytes)
    (meanwhile : List Event) (s : Session) : ComesTo s (s.handlePieceOn out env piece meanwhile) := by
  unfold handlePieceOn handleLineOn dispatchOn
  split
  · exact comesTo_error (.refl s) _
  · split
    · exact comesTo_error (.refl s) _
    · split
      · exact comesTo_ok (.refl s)
      · split
        · exact comesTo_builtin out env _ _ s
        · exact comesTo_spawnOn out env _ meanwhile s

/-! ## A pass of the reaper -/

theorem takes_reapChildOn (out : Output) (s : Session) (pid : Pid) (how : Termination) :
    Takes [] s (s.reapChildOn out pid how).1 := by
  have collected : Takes [] s (s.collect pid) := takes_of_extends rfl (.single rfl)
  unfold reapChildOn
  split
  · exact collected
  · rename_i told _
    have written := written_sayOn out (s.collect pid) (.done pid told)
    generalize (s.collect pid).sayOn out (.done pid told) = result at written
    cases written with
    | whole first => exact collected.rest ⟨first.options, first.lines⟩
    | refused detail first => exact collected.rest first

/-- The reaper takes no line, and stops at the first report that is refused. -/
theorem takes_drainOn (out : Output) (between : List (List Event)) (s : Session) :
    Takes [] s (s.drainOn out between).1 := by
  have happened : Takes [] s (s.applyAll (between.head?.getD [])) :=
    takes_of_meanwhile (meanwhile_applyAll s _)
  rw [drainOn]
  dsimp only
  split
  · exact happened
  · rename_i pid how ready
    have shrinks : ((s.applyAll (between.head?.getD [])).reapChildOn out pid how).1.machine.children.length
        < s.machine.children.length := by
      rw [← s.length_children_applyAll (between.head?.getD [])]
      exact length_children_reapChildOn_lt out ready
    have turn := happened.rest (takes_reapChildOn out _ pid how)
    split
    · exact turn.rest (takes_drainOn out between.tail _)
    · exact turn
termination_by s.machine.children.length

theorem takes_afterLineOn (out : Output) (gap : List Event) (between : List (List Event))
    (s : Session) : Takes [] s (s.afterLineOn out gap between) := by
  unfold afterLineOn
  split
  · exact .refl s
  · rename_i flags _
    have calm : Takes [] s { s with flags } := ⟨rfl, (List.append_nil _).symm⟩
    have waited := calm.rest (takes_of_meanwhile (meanwhile_applyAll _ gap))
    have drained := waited.rest (takes_drainOn out between _)
    split <;> rename_i result <;> rw [result] at drained
    · exact drained.rest (takes_reportOn out _ _)
    · exact drained

/-! ## Rounds -/

theorem takes_waits (waits : List (List Event)) (s : Session) :
    Takes [] s (waits.foldl await s) := by
  induction waits generalizing s with
  | nil => exact .refl s
  | cons events waits ih =>
    have waited : Takes [] s (s.await events) :=
      (takes_record rfl).rest (takes_of_meanwhile (meanwhile_applyAll _ events))
    exact waited.rest (ih _)

/-- What a read comes to once the prompt is shown: its piece is taken as a line, if it has one; the loop
is asked to leave by that line, or by the end of input with code 0, and by nothing else; and the shell
waits for ever only for a foreground child that does not end. -/
structure ReadTo (env : Environment) (r : Reading) (s : Session) (result : Session × Outcome) :
    Prop where
  takes : Takes r.piece.toList s result.1
  exits : ∀ code, result.2 = .error (.exit code) ↔ (r.piece = none ∧ code = 0 ∨
    ∃ piece, r.piece = some piece ∧ Line.exitCode? s.options env.pid piece = some code)
  held : ∀ pid, result.2 = .stuck pid → r.piece ≠ none ∧ WaitsFor result.1 pid

theorem readTo_readOn (out : Output) (env : Environment) (r : Reading) (s : Session) :
    ReadTo env r s (s.readOn out env r) := by
  obtain ⟨waits, held, next, meanwhile⟩ := r
  have waited : Takes [] s (waits.foldl await s) := takes_waits waits s
  cases next with
  | none => exact ⟨waited, fun code => by simp [readOn, eq_comm], nofun⟩
  | some piece =>
    unfold readOn
    dsimp only
    generalize waits.foldl await s = p at waited
    have taken : Takes [piece] s (p.record (.taken piece)) :=
      ⟨waited.options, by
        rw [← List.nil_append [piece], ← List.append_assoc, ← waited.lines]
        exact Transcript.lines_append _ [.taken piece]⟩
    have comes := comesTo_handlePieceOn out env piece meanwhile (p.record (.taken piece))
    refine ⟨taken.rest comes.takes, fun code => ?_, fun pid stuck => ⟨nofun, comes.held pid stuck⟩⟩
    rw [handlePieceOn_exit_iff, taken.options]
    simp

/-- A read that does not make the loop leave is that of a line which does not ask to. -/
theorem ReadTo.unasked {result : Session × Outcome} (read : ReadTo env r s result)
    (stays : ∀ code, result.2 ≠ .error (.exit code)) :
    ∃ piece, r.piece = some piece ∧ Line.exitCode? s.options env.pid piece = none := by
  cases here : r.piece with
  | none => exact absurd ((read.exits 0).2 (.inl ⟨here, rfl⟩)) (stays 0)
  | some piece =>
    exact ⟨piece, rfl, Option.eq_none_iff_forall_ne_some.2 fun code asks =>
      stays code ((read.exits code).2 (.inr ⟨piece, here, asks⟩))⟩

/-- What a round can come to. -/
inductive Turned (out : Output) (env : Environment) (r : Reading) (s : Session) :
    Session × Option Ending → Prop
  /-- A notice or the prompt is refused, and nothing is read. -/
  | refused {t : Session} : (s.openOn out).2 ≠ .ok → Takes [] s t → Turned out env r s (t, none)
  /-- A line is handled that does not ask to leave. -/
  | handled {t : Session} {piece : Bytes} : (s.openOn out).2 = .ok → r.piece = some piece →
    Line.exitCode? s.options env.pid piece = none → Takes [piece] s t → Turned out env r s (t, none)
  /-- A line asks to leave, or the input is over. -/
  | left {m : Session} {code : Int} : (s.openOn out).2 = .ok →
    (r.piece = none ∧ code = 0 ∨
      ∃ piece, r.piece = some piece ∧ Line.exitCode? s.options env.pid piece = some code) →
    Takes r.piece.toList s m → Turned out env r s ((m.leave code).1, some (m.leave code).2)
  /-- A foreground child does not end. -/
  | held {m : Session} {pid : Pid} : (s.openOn out).2 = .ok → r.piece ≠ none →
    WaitsFor m pid → Takes r.piece.toList s m → Turned out env r s (m, some (.stuck pid))

/-- What a round comes to, over any output: it is refused before the read, it handles a line, it
leaves, or it waits for a foreground child. -/
theorem turned_roundOn (out : Output) (env : Environment) (r : Reading) (s : Session) :
    Turned out env r s (s.roundOn out env r) := by
  have opened := written_openOn out s
  unfold roundOn stepOn
  cases shown : s.openOn out with
  | mk p outcome =>
    rw [shown] at opened
    cases opened with
    | refused detail first =>
      refine .refused (by simp [shown]) ?_
      exact (first.rest (takes_reportOn out p (.io detail))).rest (takes_afterLineOn out _ _ _)
    | whole first =>
      have ok : (s.openOn out).2 = .ok := by rw [shown]
      have read := readTo_readOn out env r p
      dsimp only
      generalize p.readOn out env r = result at read
      obtain ⟨t, outcome⟩ := result
      have through : Takes r.piece.toList s t := first.trans read.takes
      have handled {u : Session} (stays : ∀ code, outcome ≠ .error (.exit code))
          (later : Takes [] t u) : Turned out env r s (u, none) := by
        obtain ⟨piece, here, unasked⟩ := read.unasked stays
        rw [first.options] at unasked
        exact .handled ok here unasked (by simpa [here] using through.rest later)
      -- Reports and the reaper are passed over, whatever is refused in them.
      cases outcome with
      | ok => exact handled nofun (takes_afterLineOn out _ _ t)
      | stuck pid =>
        obtain ⟨present, waits⟩ := read.held pid rfl
        exact .held ok present waits through
      | error e =>
        have reported := (takes_reportOn out t e).trans (takes_afterLineOn out [] [] _)
        cases e with
        | exit code => exact .left ok (first.options ▸ (read.exits code).1 rfl) through
        | _ => exact handled nofun reported

/-! ## Any number of rounds -/

/-- Where a loop over some lines can stand. While it goes on it has taken the first lines, of which
none asks to leave, and the others are to come. When it is over it has left, having taken all lines up
to the first that asks to leave, or it waits for a foreground child. -/
inductive Stands (env : Environment) (options : Options) (lines : List Bytes) : LoopState → Prop
  | going {t : Session} {reads : List Reading} {taken later : List Bytes} : lines = taken ++ later →
    (∀ piece ∈ taken, Line.exitCode? options env.pid piece = none) → t.options = options →
    t.machine.transcript.lines = taken → reads.map (·.piece) = later.map some ++ [none] →
    Stands env options lines (.going t reads)
  | left {m : Session} :
    m.machine.transcript.lines = lines.take (firstExit options env.pid lines + 1) →
    Stands env options lines (.ended (m.leave (firstExitCode options env.pid lines)).1
      (m.leave (firstExitCode options env.pid lines)).2)
  | held {m : Session} {pid : Pid} : WaitsFor m pid →
    m.machine.transcript.lines <+: lines.take (firstExit options env.pid lines + 1) →
    Stands env options lines (.ended m (.stuck pid))

/-- The lines up to the first that asks to leave begin with those of which none does. -/
theorem take_firstExit {options : Options} {pid : Int} {taken later : List Bytes}
    (silent : ∀ piece ∈ taken, Line.exitCode? options pid piece = none) :
    (taken ++ later).take (firstExit options pid (taken ++ later) + 1) =
        taken ++ later.take (firstExit options pid later + 1) ∧
      firstExitCode options pid (taken ++ later) = firstExitCode options pid later := by
  induction taken with
  | nil => exact ⟨rfl, rfl⟩
  | cons piece taken ih =>
    obtain ⟨first, others⟩ := List.forall_mem_cons.1 silent
    obtain ⟨pieces, code⟩ := ih others
    rw [List.cons_append, firstExit_cons, firstExitCode_cons, first]
    exact ⟨congrArg (piece :: ·) pieces, code⟩

/-- The step lemma: a round takes the next line or none, and ends the loop where it should. -/
theorem Stands.advance {options : Options} {state : LoopState} (stands : Stands env options lines state)
    (out : Output) : Stands env options lines (advanceOn out env state) := by
  cases stands with
  | left taken => exact .left taken
  | held waits begins => exact .held waits begins
  | @going t reads taken later whole silent same told read =>
    cases reads with
    | nil => simp at read
    | cons r reads =>
      have turned := turned_roundOn out env r t
      obtain ⟨upTo, code_eq⟩ : (taken ++ later).take (firstExit options env.pid (taken ++ later) + 1) =
          taken ++ later.take (firstExit options env.pid later + 1) ∧ _ := take_firstExit silent
      rw [← whole] at upTo code_eq
      rw [advanceOn]
      generalize t.roundOn out env r = result at turned
      cases turned with
      | refused shut takes =>
        dsimp only
        rw [if_neg shut]
        exact .going whole silent (takes.options.trans same)
          (takes.lines.trans ((List.append_nil _).trans told)) read
      | @handled t' piece shown here unasked takes =>
        dsimp only
        rw [if_pos shown]
        rcases piece_of_reads read with ⟨ended, -⟩ | ⟨piece', later', here', rfl, rest⟩
        · rw [ended] at here
          cases here
        · cases here.symm.trans here'
          rw [same] at unasked
          refine .going (by simp [whole] : lines = (taken ++ [piece]) ++ later') ?_
            (takes.options.trans same) (takes.lines.trans (told ▸ rfl)) rest
          simpa [or_imp, forall_and] using ⟨silent, unasked⟩
      | @left m code shown asks takes =>
        dsimp only
        obtain ⟨code_is, pieces, -⟩ := firstExit_of_asked read (same ▸ asks)
        obtain rfl : code = firstExitCode options env.pid lines := code_is.trans code_eq.symm
        refine .left ?_
        rw [upTo, takes.lines, told, pieces]
      | @held m pid shown there waits takes =>
        dsimp only
        refine .held waits ?_
        rw [upTo, takes.lines, told]
        rcases piece_of_reads read with ⟨ended, -⟩ | ⟨piece, later', here, rfl, -⟩
        · exact absurd ended there
        · rw [here]
          simp

/-- Two loops that stand at the same place, with different input to come after a line that asks to
leave. -/
inductive Twins (env : Environment) (options : Options) (rest rest' : List Reading) :
    LoopState → LoopState → Prop
  | going {t : Session} {firsts : List Reading} {lines : List Bytes} :
    firsts.map (·.piece) = lines.map some → AskedToLeave options env.pid lines →
    t.options = options → Twins env options rest rest' (.going t (firsts ++ rest))
      (.going t (firsts ++ rest'))
  | ended (last : Session) (ending : Ending) :
    Twins env options rest rest' (.ended last ending) (.ended last ending)

theorem Twins.advance {options : Options} {rest rest' : List Reading} {one other : LoopState}
    (twins : Twins env options rest rest' one other) (out : Output) :
    Twins env options rest rest' (advanceOn out env one) (advanceOn out env other) := by
  cases twins with
  | ended last ending => exact .ended last ending
  | @going t firsts lines read asked same =>
    obtain ⟨asking, member, asks⟩ := asked
    cases lines with
    | nil => cases member
    | cons piece lines =>
      cases firsts with
      | nil => cases read
      | cons r firsts =>
        obtain ⟨here, later⟩ := List.cons.inj read
        have turned := turned_roundOn out env r t
        rw [List.cons_append, List.cons_append, advanceOn, advanceOn]
        generalize t.roundOn out env r = result at turned
        cases turned with
        | refused shut takes =>
          dsimp only
          rw [if_neg shut, if_neg shut]
          exact .going read ⟨asking, member, asks⟩ (takes.options.trans same)
        | @handled t' piece' shown here' unasked takes =>
          dsimp only
          rw [if_pos shown, if_pos shown]
          cases here.symm.trans here'
          refine .going later ⟨asking, (List.mem_cons.1 member).resolve_left fun first => ?_, asks⟩
            (takes.options.trans same)
          rw [first, ← same, unasked] at asks
          cases asks
        | left _ _ _ => exact .ended _ _
        | held _ _ _ _ => exact .ended _ _

end Session

end JobShell
