import JobShell.Proofs.Course
import JobShell.Proofs.Pieces
import JobShell.Proofs.Progress

/-!
# How long the loop runs

The loop has no counter. It ends at the first line that asks to leave, or at the end of input, since
every step that gets its prompt shown takes a piece of input and nothing else asks to leave: no error
of the reader, of the parser, of a command or of a write does.

* `step_exit_iff`: a step ends the loop at a piece that asks to leave and at the end of input, and at no
  other.
* `Steps`: the steps of a run, one after the other.
* `run_handles_lines_up_to_exit`: which lines a run handles, and what it returns.
-/

namespace JobShell

namespace Session

variable {env : Environment} {s : Session} {r : Reading} {code : Int}

/-- A step ends the loop with a code at the end of input, or at a piece that asks to leave. -/
theorem step_exit_iff (idle : s.flags.waiting = false) :
    (s.step env r).2 = .error (.exit code) ↔
      (r.piece = none ∧ code = 0) ∨
        ∃ piece, r.piece = some piece ∧ Line.exitCode? s.options env.pid piece = some code := by
  rw [step_eq]
  cases r.piece with
  | none => simp [eq_comm]
  | some piece =>
    have options : ((s.prompted r.waits).record (.taken piece)).options = s.options :=
      (prompted_of_idle idle r.waits).options
    dsimp only
    have asks : (((s.prompted r.waits).record (.taken piece)).handlePiece env piece r.meanwhile).2 =
        .error (.exit code) ↔ _ := handlePieceOn_exit_iff
    rw [asks, options]
    simp

/-! ## The lines that are taken -/

end Session

theorem Entry.taken?_of_isClosing {e : Entry} (closing : e.isClosing = true) : e.taken? = none := by
  cases e <;> first | rfl | cases closing

theorem Entry.taken?_of_isPrompting {e : Entry} (prompting : e.IsPrompting) : e.taken? = none := by
  rcases prompting with meanwhile | rfl
  · exact taken?_of_isMeanwhile meanwhile
  · rfl

namespace Session

variable {env : Environment} {start s p m last : Session} {r : Reading} {rs : List Reading}
variable {meanwhile : List Event} {pid : Pid} {argv : List String} {code : Int}

theorem Prompted.lines (prompted : Prompted s p) :
    p.machine.transcript.lines = s.machine.transcript.lines := by
  obtain ⟨added, grown, -, all⟩ := prompted.heard
  have shown : s.machine.transcript.Extends (fun e => e.taken? = none)
      (s.machine.transcript ++ s.shows) := by
    refine ⟨s.shows, rfl, fun e member => ?_⟩
    rcases List.mem_append.1 member with notice | prompt
    · obtain ⟨_, -, rfl⟩ := List.mem_map.1 notice
      rfl
    · rw [List.mem_singleton.1 prompt]
      rfl
  have heard : (s.machine.transcript ++ s.shows).Extends Entry.IsPrompting p.machine.transcript :=
    ⟨added, grown, all⟩
  exact (shown.trans (heard.mono fun _ => Entry.taken?_of_isPrompting)).lines fun _ => id

/-- What comes of a line takes no other line. -/
theorem Answered.lines {result : Session × Outcome} (answered : Answered p result) :
    result.1.machine.transcript.lines = p.machine.transcript.lines := by
  have attended : ∀ {w : Session} {state : ChildState}, Attended p w state →
      p.machine.transcript.Extends (fun e => e.taken? = none) w.machine.transcript := by
    intro w state attended
    obtain ⟨-, -, -, during, whole, -, all⟩ := attended.heard
    refine ⟨.forked p.newPid false :: during, whole, fun e member => ?_⟩
    rcases List.mem_cons.1 member with rfl | meanwhile
    · rfl
    · exact Entry.taken?_of_isMeanwhile (all e meanwhile)
  cases answered with
  | idle => rfl
  | refused e => rfl
  | moved cwd => rfl
  | told => exact (Transcript.Extends.single (P := fun e => e.taken? = none) rfl).lines fun _ => id
  | @begun w begun =>
    obtain ⟨own, ran⟩ := begun.meanwhile
    have forked : p.machine.transcript.Extends (fun e => e.taken? = none)
        (p.addChild own true).1.machine.transcript := .single rfl
    have announced : w.machine.transcript.Extends (fun e => e.taken? = none)
        ((w.track p.newPid).say (.started p.newPid)).machine.transcript := .single rfl
    have during := ran.extends.mono fun _ => Entry.taken?_of_isMeanwhile
    exact ((forked.trans during).trans announced).lines fun _ => id
  | @awaited w how there =>
    have collected : w.machine.transcript.Extends (fun e => e.taken? = none)
        (w.afterWait p.newPid).machine.transcript := .single rfl
    have told : (w.afterWait p.newPid).machine.transcript.Extends (fun e => e.taken? = none)
        ((w.afterWait p.newPid).noteEnd how.decode).1.machine.transcript :=
      ⟨how.interruption, (noteEnd_frame _ how).2.2.2, fun e member => by
        rw [eq_of_mem_interruption member]
        rfl⟩
    exact (((attended there).trans collected).trans told).lines fun _ => id
  | stuck there alive => exact (attended there).lines fun _ => id

/-- A step takes the line that has been read, and no other. -/
theorem step_lines (idle : s.flags.waiting = false) (env : Environment) (r : Reading) :
    (s.step env r).1.machine.transcript.lines = s.machine.transcript.lines ++ r.piece.toList := by
  have prompted := (prompted_of_idle idle r.waits).lines
  rcases answered_step idle env r with ⟨ended, step⟩ | ⟨piece, read, answered⟩
  · rw [step, ended, prompted, Option.toList_none, List.append_nil]
  · rw [answered.lines, read, ← prompted]
    exact Transcript.lines_append _ [.taken piece]

theorem Closed.lines {t : Session} (closed : Closed s t) :
    t.machine.transcript.lines = s.machine.transcript.lines :=
  closed.transcript.lines fun _ => Entry.taken?_of_isClosing

/-! ## The steps of a run -/

/-- The steps of a run from `s` until its loop ends in `last`, with what each of them reads. All but
the last one leave the loop going, whatever error they come to. -/
inductive Steps (env : Environment) : Session → List Reading → Session → Halt → Prop
  | left {s m : Session} {r : Reading} {code : Int} : s.step env r = (m, .error (.exit code)) →
    Steps env s [r] m (.left code)
  | stuck {s m : Session} {r : Reading} {pid : Pid} : s.step env r = (m, .stuck pid) →
    Steps env s [r] m (.stuck pid)
  | next {s last : Session} {r : Reading} {rs : List Reading} {halt : Halt} :
    (s.round env r).2 = none → Steps env (s.round env r).1 rs last halt →
    Steps env s (r :: rs) last halt
  /-- Standard input is read before a step. -/
  | supply {s last : Session} {rs : List Reading} {halt : Halt} (r : Reading) :
    Steps env (s.supply r).1 rs last halt → Steps env s rs last halt

/-- A round after which the loop goes on has not been asked to leave. -/
theorem exitCode?_of_round {piece : Bytes} (idle : s.flags.waiting = false)
    (goes_on : (s.round env r).2 = none) (here : r.piece = some piece) :
    Line.exitCode? s.options env.pid piece = none := by
  rw [Option.eq_none_iff_forall_ne_some]
  intro code asks
  exact (closed_round goes_on).2.1 code ((step_exit_iff idle).2 (.inr ⟨piece, here, asks⟩))

/-- The steps of a run read its lines up to the first one that asks to leave, or up to the end of
input, and the loop ends with its code. -/
theorem Steps.handled {used reads : List Reading} {lines : List Bytes}
    (steps : Steps env s used last (.left code)) (reach : Reaches env start s)
    (steady : Steady start start) (begins : used <+: reads)
    (read : reads.map (·.piece) = lines.map some ++ [none]) :
    let n := firstExit start.options env.pid lines
    code = firstExitCode start.options env.pid lines ∧
      used.map (·.piece) = (lines.map some ++ [none]).take (n + 1) ∧
      last.machine.transcript.lines = s.machine.transcript.lines ++ lines.take (n + 1) := by
  generalize ended : Halt.left code = halt at steps
  induction steps generalizing lines reads with
  | @left s m r code' step =>
    cases ended
    obtain ⟨rest, rfl⟩ := begins
    have now := reach.steady steady
    have taken := step_lines now.idle env r
    have exits := (step_exit_iff now.idle).1 (congrArg Prod.snd step)
    rw [step] at taken
    rw [now.options] at exits
    dsimp only at taken ⊢
    obtain ⟨code_eq, pieces, own⟩ := firstExit_of_asked read exits
    exact ⟨code_eq, own, pieces ▸ taken⟩
  | stuck step => cases ended
  | @next s last r rs halt goes_on _ ih =>
    obtain ⟨rest, rfl⟩ := begins
    have now := reach.steady steady
    obtain ⟨-, stays, closed⟩ := closed_round goes_on
    have taken := closed.lines.trans (step_lines now.idle env r)
    -- The loop has gone on, so this was a line, and one that does not ask to leave.
    rcases piece_of_reads read with ⟨ended, -⟩ | ⟨piece, lines, here, rfl, later⟩
    · exact absurd ((step_exit_iff now.idle).2 (.inl ⟨ended, rfl⟩)) (stays 0)
    · have silent := exitCode?_of_round now.idle goes_on here
      rw [now.options] at silent
      obtain ⟨code_eq, pieces, told⟩ :=
        ih (reach.round r goes_on) (List.prefix_append rs rest) later ended
      rw [firstExit_cons, firstExitCode_cons, silent]
      refine ⟨code_eq, ?_, ?_⟩
      · rw [List.map_cons, here, pieces]
        rfl
      · rw [told, taken, here]
        simp
  | @supply s last rs halt r _ ih =>
    obtain ⟨machine, same, transcript⟩ := supply_eq s r
    have told := ih (reach.supply r) begins read ended
    rw [same] at told
    dsimp only at told
    rwa [transcript] at told

/-- A child that the shell waits for without end is a foreground child that does not die. -/
theorem Steps.alive {used : List Reading} (steps : Steps env s used last (.stuck pid))
    (reach : Reaches env start s) (steady : Steady start start) (orderly : start.Orderly) :
    .forked pid false ∈ last.machine.transcript ∧ ∀ how, .died pid how ∉ last.machine.transcript := by
  generalize ended : Halt.stuck pid = halt at steps
  induction steps with
  | left step => cases ended
  | @stuck s m r pid' step =>
    cases ended
    have idle := (reach.steady steady).idle
    rcases answered_step idle env r with ⟨-, left⟩ | ⟨piece, -, answered⟩
    · rw [step] at left
      cases left
    · have fresh := ((reach.orderly orderly).outside (outside_taken r.waits piece s)).fresh
      rw [step] at answered
      generalize (s.prompted r.waits).record (.taken piece) = p at answered fresh
      obtain ⟨rfl, state, alive, attended⟩ := answered.of_stuck
      have history : m.historyOf p.newPid = .forked p.newPid false :: state.deathOf p.newPid :=
        (attended.made fresh).history
      refine ⟨(mem_historyOf.1 (history ▸ List.mem_cons_self)).1, fun how died => ?_⟩
      have here : .died p.newPid how ∈ m.historyOf p.newPid := mem_historyOf.2 ⟨died, rfl⟩
      rw [history] at here
      cases state with
      | dead how => exact alive how rfl
      | _ => simp [ChildState.deathOf] at here
  | @next s last r rs halt goes_on _ ih => exact ih (reach.round r goes_on) ended
  | @supply s last rs halt r _ ih => exact ih (reach.supply r) ended

/-! ## What comes after a line that asks to leave -/

end Session

end JobShell
