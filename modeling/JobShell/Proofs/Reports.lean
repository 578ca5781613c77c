import JobShell.Proofs.Lines
import JobShell.Proofs.Loop

/-!
# Reports on background children

A background child that dies is reported by one line, at the end of the round in which it died, and
nothing else is. The line appears on standard output, after the one that has announced the child. The
round that ends the loop has no turn of the reaper, so what dies in it is not reported.

* `round_reports`: a round reports the background children that die in it.
* `deaths_are_reported`: over a whole run, those are all reports there are.
-/

namespace JobShell

namespace Transcript

variable {t u : Transcript} {pid : Pid}

theorem reports_of_extends {P : Entry → Prop} (h : Extends P t u)
    (silent : ∀ e, P e → e.report? pid = none) : u.reports pid = t.reports pid := by
  obtain ⟨added, rfl, all⟩ := h
  have none_new : Transcript.reports added pid = [] :=
    List.filterMap_eq_nil_iff.2 fun e member => silent e (all e member)
  rw [reports_append, none_new, List.append_nil]

end Transcript

namespace Session

variable {env : Environment} {s start last final : Session} {ending : Ending} {r : Reading}
variable {pid q : Pid} {how : Termination}

/-- In a round only the reaper reports. -/
theorem report?_of_isWorking {e : Entry} (h : IsWorking q e) : e.report? pid = none := by
  rcases h with aside | ⟨background, rfl⟩ | rfl | ⟨p, rfl⟩
  · cases e with
    | said message =>
      cases message with
      | done p how => cases aside
      | _ => rfl
    | _ => rfl
  · rfl
  · rfl
  · rfl

theorem not_isWorking_done : ¬ IsWorking q (.said (.done pid how)) := by
  rintro (aside | ⟨background, forked⟩ | started | ⟨p, collected⟩)
  · cases aside
  · cases forked
  · cases started
  · cases collected

/-- The child that a round makes has the next process id. -/
theorem eq_of_isWorking_forked {background : Bool} (h : IsWorking q (.forked pid background)) :
    pid = q := by
  rcases h with aside | ⟨background', forked⟩ | started | ⟨p, collected⟩
  · cases aside
  · cases forked
    rfl
  · cases started
  · cases collected

namespace Orderly

/-- A report is about a background child that has died, and there is one report on it. -/
theorem reports_of_done (orderly : s.Orderly)
    (done : .said (.done pid how) ∈ s.machine.transcript) :
    .forked pid true ∈ s.machine.transcript ∧ .died pid how ∈ s.machine.transcript ∧
      s.machine.transcript.reports pid = [how] := by
  obtain ⟨-, forked, died, reports⟩ := (orderly.life pid).of_reported (mem_historyOf.2 ⟨done, rfl⟩)
  rw [historyOf, Transcript.reports_history] at reports
  exact ⟨(mem_historyOf.1 forked).1, (mem_historyOf.1 died).1, reports⟩

/-- Foreground children are not reported at any prompt. -/
theorem reports_of_foreground (orderly : s.Orderly)
    (forked : .forked pid false ∈ s.machine.transcript) :
    s.machine.transcript.reports pid = [] := by
  rw [← Transcript.reports_history]
  exact (orderly.life pid).reports_of_foreground (mem_historyOf.2 ⟨forked, rfl⟩)

/-- Every child that has died is a background child or a foreground child, and not both. -/
theorem forked_of_died (orderly : s.Orderly) (died : .died pid how ∈ s.machine.transcript)
    (not_foreground : .forked pid false ∉ s.machine.transcript) :
    .forked pid true ∈ s.machine.transcript := by
  have life := orderly.life pid
  have here := mem_historyOf.2 ⟨died, rfl⟩
  have other : .forked pid false ∉ s.historyOf pid :=
    fun member => not_foreground (mem_historyOf.1 member).1
  exact (mem_historyOf.1 (life.forked_of_died here other)).1

end Orderly

/-! ## One round -/

/-- Between the two transcripts a child dies that has been announced, and a pass of the reaper, with
which it is over, reports its end. The line about its start and the line about its end appear on
standard output, in this order. -/
def ReportedAtEnd (before after : Transcript) (pid : Pid) (how : Termination) : Prop :=
  ∃ during earlier later : Transcript,
    after = before ++ during ++ earlier ++ .said (.done pid how) :: later ∧
    .died pid how ∈ during ∧ (∀ e ∈ earlier ++ later, e.isReaping = true) ∧
    (∃ first rest, before ++ during = first ++ .said (.started pid) :: rest ∧
      (before ++ during).ShowsBetween first (fun name => startedLine (name pid)) rest) ∧
    after.ShowsBetween (before ++ during ++ earlier) (fun name => doneLine (name pid) how) later

/-- A round reports each background child that has died in it, once. -/
theorem round_reports (orderly : s.Orderly) (swept : s.Swept)
    (goes_on : (s.round env r).2 = none)
    (classic : (s.round env r).1.machine.transcript.Classic)
    (forked : .forked pid true ∈ (s.round env r).1.machine.transcript)
    (new : .died pid how ∉ s.machine.transcript)
    (died : .died pid how ∈ (s.round env r).1.machine.transcript) :
    ReportedAtEnd s.machine.transcript (s.round env r).1.machine.transcript pid how := by
  obtain ⟨m, worked, result⟩ := worked_round orderly goes_on
  rw [result] at classic forked died ⊢
  have orderly' := worked.orderly orderly
  have alert := worked.alert swept.alert
  have classic' := extends_afterLine.classic classic
  have died' : .died pid how ∈ m.machine.transcript :=
    extends_afterLine.mem_of_not died (by simp [Entry.isReaping, Entry.child?])
  have forked' : .forked pid true ∈ m.machine.transcript :=
    extends_afterLine.mem_of_not forked (by simp [Entry.isReaping, Entry.child?])
  -- A report that is there before the pass would be older than the death.
  have unreported : .said (.done pid how) ∉ m.machine.transcript := fun member =>
    new (orderly.reports_of_done (worked.working.mem_of_not member not_isWorking_done)).2.1
  have dead : m.stateOf pid = some (.dead how) := by
    have found := (orderly'.life pid).of_died (mem_historyOf.2 ⟨forked', rfl⟩)
      (mem_historyOf.2 ⟨died', rfl⟩) (classic'.isClassic died')
    exact found.resolve_right fun member => unreported (mem_historyOf.1 member).1
  have ended : m.flags.childEnded = true := alert classic' pid how dead
  have done : .said (.done pid how) ∈ m.afterLine.machine.transcript := by
    have found := (orderly'.afterLine.life pid).of_died (mem_historyOf.2 ⟨forked, rfl⟩)
      (mem_historyOf.2 ⟨died, rfl⟩) (classic.isClassic died)
    have gone := alert.swept orderly' classic pid how
    exact (mem_historyOf.1 (found.resolve_left gone)).1
  have started : .said (.started pid) ∈ m.machine.transcript :=
    (mem_historyOf.1 (dead ▸ orderly'.life pid).forked_of_state.2.1).1
  have pass := reaped_reap m.calm
  have ok : m.calm.reap.2 = .ok := pass.ok_of_classic orderly'.calm
    ((quiet_afterLine ended).machine.transcript.classic classic)
  rw [afterLine_of_ok ended ok] at done ⊢
  obtain ⟨during, grown, -⟩ := worked.working
  obtain ⟨reports, grown', all⟩ := pass.extends
  have whole : m.calm.reap.1.machine.transcript =
      s.machine.transcript ++ during ++ reports := by
    rw [grown']
    exact congrArg (· ++ reports) grown
  have done' : .said (.done pid how) ∈ reports := by
    rw [whole, ← grown] at done
    exact (List.mem_append.1 done).resolve_left unreported
  obtain ⟨earlier, later, rfl⟩ := List.append_of_mem done'
  obtain ⟨first, rest, announced⟩ := List.append_of_mem (grown ▸ started)
  have parts : m.calm.reap.1.machine.transcript =
      s.machine.transcript ++ during ++ earlier ++ .said (.done pid how) :: later := by
    rw [whole, List.append_assoc _ earlier]
  refine ⟨during, earlier, later, parts, ?_, fun e member => all e ?_,
    ⟨first, rest, announced, Transcript.showsBetween_started announced⟩,
    Transcript.showsBetween_done parts⟩
  · exact (List.mem_append.1 (grown ▸ died')).resolve_left new
  · exact (List.mem_append.1 member).elim (List.mem_append_left _) fun h =>
      List.mem_append_right _ (List.mem_cons_of_mem _ h)

/-! ## Whole runs -/

/-- After the loop nothing is reported any more. -/
theorem Ends.reports (ends : Ends env last final ending) (orderly : last.Orderly) (pid : Pid) :
    final.machine.transcript.reports pid = last.machine.transcript.reports pid :=
  Transcript.reports_of_extends (ends.working orderly) fun _ => report?_of_isWorking

theorem Ends.reports_of_foreground (ends : Ends env last final ending) (orderly : last.Orderly)
    (forked : .forked pid false ∈ final.machine.transcript) :
    final.machine.transcript.reports pid = [] := by
  rw [ends.reports orderly]
  by_cases before : .forked pid false ∈ last.machine.transcript
  · exact orderly.reports_of_foreground before
  · have newest : pid = last.newPid := by
      by_contra other
      exact before ((ends.working orderly).mem_of_not forked fun h =>
        other (eq_of_isWorking_forked h))
    rw [← Transcript.reports_history, newest]
    exact congrArg (Transcript.reports · _) (orderly.unborn _ (Int.le_refl _))

/-- At every prompt each death of a background child has been reported, once. -/
theorem Reaches.reported (reach : Reaches env start last) (orderly : start.Orderly)
    (swept : start.Swept) (empty : start.machine.transcript = [])
    (classic : last.machine.transcript.Classic)
    (forked : .forked pid true ∈ last.machine.transcript)
    (died : .died pid how ∈ last.machine.transcript) :
    ∃ s r, Reaches env start s ∧ (s.round env r).2 = none ∧ Reaches env (s.round env r).1 last ∧
      ReportedAtEnd s.machine.transcript (s.round env r).1.machine.transcript pid how := by
  have tells : (Entry.died pid how).child? = some pid := rfl
  obtain ⟨s, r, before, goes_on, rest, new, here⟩ :=
    reach.exists_round tells (empty ▸ List.not_mem_nil) died
  have after : (s.round env r).1.Orderly := (before.round r goes_on).orderly orderly
  have kept : ∀ e ∈ (s.round env r).1.machine.transcript, e ∈ last.machine.transcript :=
    fun e => rest.subset after
  have background : .forked pid false ∉ last.machine.transcript := fun member =>
    ((reach.orderly orderly).life pid).not_foreground (mem_historyOf.2 ⟨forked, rfl⟩)
      (mem_historyOf.2 ⟨member, rfl⟩)
  refine ⟨s, r, before, goes_on, rest, ?_⟩
  exact round_reports (before.orderly orderly) (before.swept orderly swept) goes_on
    (fun e member => classic e (kept e member))
    (after.forked_of_died here fun member => background (kept _ member)) new here

/-- A run in which no child dies of a signal above the classic ones reports each background child
that has died before its last round, once, at the end of the round in which it has died; and it
reports nothing else. In all that has appeared on standard output when the run is over, each report
is the line with the child's process id and its end, at its own place. -/
theorem deaths_are_reported {options : Options} {tree : FileTree} {cwd : Place} {nextPid : Pid}
    {input : Bytes}
    (reach : Reaches env (initial options tree cwd nextPid input) last)
    (ends : Ends env last final ending) (classic : final.machine.transcript.Classic) :
    (∀ pid how, .forked pid true ∈ last.machine.transcript →
      .died pid how ∈ last.machine.transcript →
      final.machine.transcript.reports pid = [how] ∧
        ∃ s r, Reaches env (initial options tree cwd nextPid input) s ∧
          (s.round env r).2 = none ∧ Reaches env (s.round env r).1 last ∧
          ReportedAtEnd s.machine.transcript (s.round env r).1.machine.transcript pid how) ∧
      (∀ pid how, .said (.done pid how) ∈ final.machine.transcript →
        .forked pid true ∈ last.machine.transcript ∧ .died pid how ∈ last.machine.transcript) ∧
      (∀ pid, .forked pid false ∈ final.machine.transcript →
        final.machine.transcript.reports pid = []) ∧
      ∀ before pid how after,
        final.machine.transcript = before ++ .said (.done pid how) :: after →
        final.machine.transcript.ShowsBetween before (fun name => doneLine (name pid) how) after := by
  have start := orderly_initial options tree cwd nextPid input
  have orderly := reach.orderly start
  have grown := ends.working orderly
  refine ⟨fun pid how forked died => ?_, fun pid how done => ?_, fun pid forked => ?_,
    fun before pid how after whole => Transcript.showsBetween_done whole⟩
  · obtain ⟨s, r, before, goes_on, rest, shown⟩ := reach.reported start
      (swept_initial options tree cwd nextPid input) rfl (grown.classic classic) forked died
    refine ⟨?_, s, r, before, goes_on, rest, shown⟩
    obtain ⟨during, earlier, later, whole, -⟩ := shown
    have here : .said (.done pid how) ∈ (s.round env r).1.machine.transcript := by
      rw [whole]
      exact List.mem_append_right _ List.mem_cons_self
    have kept := rest.subset ((before.round r goes_on).orderly start) here
    rw [ends.reports orderly]
    exact (orderly.reports_of_done kept).2.2
  · have before := grown.mem_of_not done not_isWorking_done
    obtain ⟨forked, died, -⟩ := orderly.reports_of_done before
    exact ⟨forked, died⟩
  · exact ends.reports_of_foreground orderly forked

/-- Two jobs, one more than there are slots. The second ends while the shell waits for a foreground
command, the first at the prompt after that. -/
def jobsBeyondTheTable : List Reading :=
  [lineAfter "hold &" [], lineAfter "hold &" [],
    { lineAfter "true" [] with meanwhile := [.finish 2 7] }, lineAfter "status" [.kill 1 9]]

/-- Two background children, of which only the first has a slot, are reported both. -/
theorem deaths_are_reported_beyond_the_table :
    let last := (memoryShell 1).rounds memoryEnvironment jobsBeyondTheTable
    let final := (last.leave 0).1
    Reaches memoryEnvironment (memoryShell 1) last ∧
      Ends memoryEnvironment last final (last.leave 0).2 ∧
      final.machine.transcript.Classic ∧
      .died 1002 (.exited 7) ∈ last.machine.transcript ∧
      (∃ before after, final.machine.transcript.ShowsBetween before
        (fun name => doneLine (name 1002) (.exited 7)) after) ∧
      final.machine.transcript.reports 1001 = [.signaled 9] ∧
      final.machine.transcript.reports 1002 = [.exited 7] ∧
      final.machine.transcript.reports 1003 = [] := by
  intro last final
  have reach : Reaches memoryEnvironment (memoryShell 1) last :=
    reaches_rounds (by decide +kernel)
  have ends : Ends memoryEnvironment last final (last.leave 0).2 := .left .input
  have classic : final.machine.transcript.Classic := by decide +kernel
  have died : .died 1002 (.exited 7) ∈ last.machine.transcript := by decide +kernel
  obtain ⟨reported, -, foreground, shown⟩ := deaths_are_reported reach ends classic
  refine ⟨reach, ends, classic, died, ?_, ?_, ?_, ?_⟩
  · have done : .said (.done 1002 (.exited 7)) ∈ final.machine.transcript := by decide +kernel
    obtain ⟨before, after, whole⟩ := List.append_of_mem done
    exact ⟨before, after, shown before 1002 (.exited 7) after whole⟩
  · exact (reported 1001 (.signaled 9) (by decide +kernel) (by decide +kernel)).1
  · exact (reported 1002 (.exited 7) (by decide +kernel) died).1
  · exact foreground 1003 (by decide +kernel)

end Session

end JobShell
