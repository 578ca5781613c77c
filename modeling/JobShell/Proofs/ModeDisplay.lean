import JobShell.Proofs.Rounds

/-!
# What is shown of the mode

Terminal stops reach the shell at its prompts and during its waits for foreground commands. At a
prompt a change of mode is shown at once; the changes during a wait are told before the next prompt,
in two notices at most, of which the last one is right.

* `mode_is_displayed`: so it is at every prompt of every run, and nothing is left untold at its end.
-/

namespace JobShell

/-! ## The end of input -/

namespace Input

theorem exists_end_atEnd (waits : List (List Event)) (held left : Bytes) :
    ∃ r ∈ atEnd waits held left, r.piece = none := by
  unfold atEnd
  split
  · exact ⟨_, List.mem_singleton_self _, rfl⟩
  · exact ⟨_, List.mem_cons_of_mem _ (List.mem_singleton_self _), rfl⟩

theorem exists_end_readingsFrom (waits : List (List Event)) (held left : Bytes)
    (arrivals : List Arrival) : ∃ r ∈ readingsFrom waits held left arrivals, r.piece = none := by
  induction arrivals generalizing waits held left with
  | nil => exact exists_end_atEnd waits held left
  | cons a as ih =>
    unfold readingsFrom
    dsimp only
    split
    · exact exists_end_atEnd _ held left
    · split
      · exact ih _ held _
      · rename_i rest _
        obtain ⟨r, member, ended⟩ := ih [] rest rest
        exact ⟨r, List.mem_append_right _ member, ended⟩

end Input

/-- Whether an entry may appear while the shell ends its jobs. -/
def Entry.isParting : Entry → Bool
  | .sent _ _ => true
  | .collected _ => true
  | e => e.isMeanwhile false

theorem Entry.isParting_of_isMeanwhile {e : Entry} {waiting : Bool}
    (meanwhile : e.isMeanwhile waiting = true) : e.isParting = true := by
  cases e with
  | said message =>
    cases message with
    | prompt shown => rfl
    | notice change => rfl
    | _ => cases meanwhile
  | _ => first | rfl | cases meanwhile

namespace Session

variable {env : Environment} {start s p q t m last final : Session} {r : Reading}
variable {rs : List Reading} {how : Termination} {during closing : Transcript} {code : Int}

/-! ## How a run returns -/

/-- The shell returns the code with which it leaves. -/
theorem eq_of_leave_returned {code' : Int} (returned : (m.leave code').2 = .returned code) :
    code' = code := by
  unfold leave at returned
  split at returned
  · exact Ending.returned.inj returned
  · cases returned

/-- The shell leaves from `m`, asked to or at the end of input, in a run from `s`. -/
def LeavesFrom (env : Environment) (s m : Session) (code : Int) : Prop :=
  ∃ last r, Reaches env s last ∧ last.step env r = (m, .error (.exit code))

/-- What leaves from a later prompt leaves from an earlier one. -/
theorem LeavesFrom.after (later : LeavesFrom env s m code) (first : Reaches env start s) :
    LeavesFrom env start m code := by
  obtain ⟨last, r, reach, left⟩ := later
  exact ⟨last, r, first.trans reach, left⟩

/-- A round that ends the loop with a code has left. -/
theorem round_returned (result : s.round env r = (final, some (.returned code))) :
    ∃ m, LeavesFrom env s m code ∧ final = (m.leave code).1 := by
  rw [round_eq] at result
  split at result <;> rename_i m _ step
  · cases result
  · have returned := Option.some.inj (congrArg Prod.snd result)
    obtain rfl := eq_of_leave_returned returned
    exact ⟨m, ⟨s, r, .refl, step⟩, (congrArg Prod.fst result).symm⟩
  · cases result
  · cases result

/-- A round after which the loop goes on is a run. -/
theorem reaches_of_round (result : s.round env r = (t, none)) : Reaches env s t := by
  have reach : Reaches env s (s.round env r).1 := .round r .refl (by rw [result])
  rwa [result] at reach

/-- A round after which the loop goes on has not met the end of input. -/
theorem end_of_round (result : s.round env r = (t, none))
    (ended : ∃ r' ∈ r :: rs, r'.piece = none) : ∃ r' ∈ rs, r'.piece = none := by
  obtain ⟨r', member, none_left⟩ := ended
  rcases List.mem_cons.1 member with rfl | later
  · have stays : (s.step env r').2 ≠ .error (.exit 0) := (closed_round (by rw [result])).2.1 0
    rw [step_eq, none_left] at stays
    exact absurd rfl stays
  · exact ⟨r', later, none_left⟩

/-- Input has an end, so a run that returns does so by leaving. -/
theorem listen_returned (ended : ∃ r ∈ rs, r.piece = none)
    (returned : (s.listen env rs).2 = .returned code) :
    ∃ m, LeavesFrom env s m code ∧ (s.listen env rs).1 = (m.leave code).1 := by
  induction rs generalizing s with
  | nil =>
    obtain ⟨r, member, -⟩ := ended
    cases member
  | cons r rs ih =>
    rw [listen] at returned ⊢
    split at returned <;> rename_i result
    · obtain ⟨m, left, same⟩ := ih (end_of_round result ended) returned
      exact ⟨m, left.after (reaches_of_round result), same⟩
    · cases returned
      exact round_returned result

/-- A run whose children share the input, if it has returned, has left from some prompt. -/
theorem listenShared_returned (ended : ∃ r ∈ rs, r.piece = none)
    (returned : (s.listenShared env rs).2 = .returned code) :
    ∃ m, LeavesFrom env s m code ∧ (s.listenShared env rs).1 = (m.leave code).1 := by
  induction rs generalizing s with
  | nil =>
    obtain ⟨r, member, -⟩ := ended
    cases member
  | cons r rs ih =>
    have supplied : Reaches env s (s.supply r).1 := Reaches.refl.supply r
    rw [listenShared] at returned ⊢
    split at returned <;> rename_i read supply <;> rw [supply] at supplied
    · obtain ⟨m, left, same⟩ := listen_returned (Input.exists_end_atEnd _ _ _) returned
      exact ⟨m, left.after supplied, same⟩
    · split at returned <;> rename_i result
      · obtain ⟨m, left, same⟩ := ih (end_of_round result ended) returned
        exact ⟨m, left.after (supplied.trans (reaches_of_round result)), same⟩
      · cases returned
        obtain ⟨m, left, same⟩ := round_returned result
        exact ⟨m, left.after supplied, same⟩

/-! ## Nothing is held back when the loop ends -/

/-- To leave is no change to the session, and it happens at a prompt. -/
theorem LeavesFrom.pending (left : LeavesFrom env start m code) (steady : Steady start start) :
    m.flags.waiting = false ∧ m.flags.pending = [] := by
  obtain ⟨last, r, reach, step⟩ := left
  have idle := (reach.steady steady).idle
  have prompted := prompted_of_idle idle r.waits
  have waiting : (last.prompted r.waits).flags.waiting = false := prompted.waiting.trans idle
  rcases answered_step idle env r with ⟨-, ended⟩ | ⟨piece, -, answered⟩
  · rw [step] at ended
    cases ended
    exact ⟨waiting, prompted.pending idle⟩
  · rw [step] at answered
    rcases answered.of_error with rfl | ⟨other, -⟩
    · exact ⟨waiting, prompted.pending idle⟩
    · cases other

theorem heard_endJob (s : Session) (pid : Pid) :
    Heard (·.isParting = true) s (s.endJob pid).1 := by
  have sent : Heard (·.isParting = true) s (s.terminate pid) := by
    have recorded : Heard (·.isParting = true) s (s.record (.sent pid Signal.terminate)) :=
      heard_record (by simp) rfl
    exact recorded.trans ((meanwhile_changeChild _ pid _).mono fun _ => Entry.isParting_of_isMeanwhile)
  unfold endJob
  split
  · exact .refl _ s
  · dsimp only
    split
    · have collected : Heard (·.isParting = true) (s.terminate pid) ((s.terminate pid).collect pid) :=
        ⟨rfl, rfl, rfl, [.collected pid], rfl, rfl, by simp [Entry.isParting]⟩
      exact sent.trans collected
    · exact sent

/-- While jobs are ended, the shell hears of their deaths and nothing else. -/
theorem heard_endJobs (jobs : List Pid) (s : Session) :
    Heard (·.isParting = true) s (endJobs jobs s).1 := by
  induction jobs generalizing s with
  | nil => exact .refl _ s
  | cons pid rest ih =>
    have untracked : Heard (·.isParting = true) s (s.untrack pid) :=
      ⟨rfl, rfl, rfl, [], by simp [untrack], rfl, by simp⟩
    have first := untracked.trans (heard_endJob (s.untrack pid) pid)
    rw [endJobs_cons]
    split
    · exact first.trans (ih _)
    · exact first

theorem heard_leave (code : Int) (s : Session) :
    Heard (·.isParting = true) s (s.leave code).1 := by
  have ended := heard_endJobs s.jobs.toList s
  unfold leave shutdown
  split <;> rename_i result <;> rw [result] at ended <;> exact ended

/-- When the shell has left, no notice is held back. -/
theorem LeavesFrom.pending_leave (left : LeavesFrom env start m code) (steady : Steady start start) :
    (m.leave code).1.flags.pending = [] := by
  obtain ⟨idle, none_held⟩ := left.pending steady
  obtain ⟨added, -, flags, -⟩ := (heard_leave code m).heard
  rw [flags, SignalFlags.pending_hearAll]
  exact SignalFlags.pending_toggled_of_not_waiting idle none_held _

end Session

/-! ## What is shown -/

/-- Whether an entry is the line about the end of a foreground child, or comes with the report on an
error or with the pass of the reaper. -/
def Entry.isAftermath : Entry → Bool
  | .said (.interrupted _) => true
  | e => e.isClosing

/-- In the transcript the whole wait for a foreground child, of which nothing is shown but the output
of children, is followed by the line about its end, the reaper's lines, and the notices of the
changes of mode that have come during the wait, one or two if there are any. The last one tells of
the mode that all changes so far come to, and the next prompt comes right after it. What appears
there on standard output is the texts of these notices and the prompt. -/
def Transcript.TellsAfterWait (prompt : String) (t : Transcript) (pid : Pid) : Prop :=
  ∃ (before during after : Transcript) (notices : List ModeNotice) (rest : Transcript),
    t = before ++ .forked pid false :: during ++ .collected pid :: after ++
      Transcript.ofNotices notices ++ .said (.prompt prompt) :: rest ∧
    (∀ e ∈ during, e.isMeanwhile true = true) ∧ (∀ e ∈ after, e.isAftermath = true) ∧
    notices.length = min during.stops 2 ∧
    (∀ notice ∈ notices.getLast?,
      notice = .ofMode (Transcript.flips (before ++ .forked pid false :: during))) ∧
    ∀ name, t.bytesOn name .out =
      Transcript.bytesOn name .out (before ++ .forked pid false :: during ++ .collected pid :: after) ++
        (notices.flatMap fun notice => Text.encode (noticeText notice)) ++ Text.encode prompt ++
        rest.bytesOn name .out

/-- Texts of notices and the prompt stand on standard output where their entries stand. -/
theorem Transcript.bytesOn_notices_prompt {t earlier rest : Transcript} {notices : List ModeNotice}
    {prompt : String}
    (whole : t = earlier ++ Transcript.ofNotices notices ++ .said (.prompt prompt) :: rest)
    (name : Pid → String) : t.bytesOn name .out = earlier.bytesOn name .out ++
      (notices.flatMap fun notice => Text.encode (noticeText notice)) ++ Text.encode prompt ++
      rest.bytesOn name .out := by
  rw [whole, bytesOn_append, bytesOn_append, bytesOn_ofNotices, bytesOn_cons,
    Entry.bytesOn_prompt]
  simp only [List.append_assoc]

namespace Session

variable {env : Environment} {start s p q t m last final : Session} {r : Reading}
variable {rs : List Reading} {how : Termination} {during closing : Transcript} {code : Int}

/-- At a prompt a terminal stop is answered with a notice and the prompt. -/
theorem receive_terminalStop (idle : p.flags.waiting = false) :
    (p.apply (.signal .terminalStop)).flags.foregroundOnly = !p.flags.foregroundOnly ∧
      (p.apply (.signal .terminalStop)).machine.transcript =
        p.machine.transcript ++ [.received Signal.terminalStop] ++
          Transcript.ofNotices [.ofMode (!p.flags.foregroundOnly)] ++
          [.said (.prompt p.options.prompt)] := by
  have toggled : p.apply (.signal .terminalStop) =
      (p.record (.received Signal.terminalStop)).toggleMode := rfl
  have idle' : (p.record (.received Signal.terminalStop)).flags.waiting = false := idle
  rw [toggled, toggleMode_of_not_waiting idle', sayAll_eq]
  refine ⟨SignalFlags.foregroundOnly_toggle _, ?_⟩
  simp [record, Machine.record, Transcript.ofNotices]

/-- What a transcript tells after a wait, with the bytes that appear for it. -/
theorem WaitedAt.tellsAfterWait (at_prompt : WaitedAt start p q t how during closing) :
    p.machine.transcript.TellsAfterWait start.options.prompt q.newPid := by
  obtain ⟨steady, none_held, -, waited, rest, shown⟩ := at_prompt
  have after : ∀ e ∈ how.interruption ++ closing, e.isAftermath = true := by
    intro e member
    rcases List.mem_append.1 member with told | closed
    · rw [eq_of_mem_interruption told]
      rfl
    · have closing := waited.closing e closed
      unfold Entry.isAftermath
      split
      · rfl
      · exact closing
  have held : t.flags.pending = ((q.flags.setWaiting true).toggled during.stops).pending := by
    rw [waited.flags, ← SignalFlags.pending_hearAll]
    rfl
  have mode : ((q.flags.setWaiting true).toggled during.stops).foregroundOnly =
      Transcript.flips (q.machine.transcript ++ .forked q.newPid false :: during) := by
    rw [SignalFlags.foregroundOnly_toggled, Transcript.flips_append, ← steady.mode]
    rfl
  have none_held' : (q.flags.setWaiting true).pending = [] := none_held
  have prompt : t.options.prompt = start.options.prompt := by rw [waited.options, steady.options]
  have whole : p.machine.transcript = q.machine.transcript ++ .forked q.newPid false :: during ++
      .collected q.newPid :: (how.interruption ++ closing) ++
      Transcript.ofNotices t.flags.pending ++ .said (.prompt start.options.prompt) :: rest := by
    rw [shown, waited.transcript, Transcript.ofWait, shows, prompt]
    simp
  refine ⟨q.machine.transcript, during, how.interruption ++ closing, t.flags.pending, rest, whole,
    waited.meanwhile, after, ?_, ?_, Transcript.bytesOn_notices_prompt whole⟩
  · rw [held]
    exact SignalFlags.length_pending_toggled rfl none_held' _
  · rw [held, ← mode]
    exact SignalFlags.last_pending_toggled rfl none_held' _

/-- While the shell waits for a foreground command that does not end, it shows nothing. -/
theorem step_stuck {pid : Pid} (idle : s.flags.waiting = false)
    (stuck : s.step env r = (final, .stuck pid)) :
    ∃ before during, final.machine.transcript = before ++ .forked pid false :: during ∧
      ∀ e ∈ during, e.isMeanwhile true = true := by
  rcases answered_step idle env r with ⟨-, ended⟩ | ⟨piece, -, answered⟩
  · rw [stuck] at ended
    cases ended
  · rw [stuck] at answered
    obtain ⟨rfl, state, -, attended⟩ := answered.of_stuck
    obtain ⟨-, -, -, during, whole, -, all⟩ := attended.heard
    exact ⟨_, during, whole, all⟩

/-- At every prompt no notice is held back, and a change of mode is shown at once: its text appears
on standard output, followed by the prompt. The changes that have come during a wait for a foreground
command have been told between the end of that command and the next prompt, and those of a command
that does not end are not shown. No notice is left when the shell leaves, nor when a run has
returned. -/
theorem mode_is_displayed (options : Options) (tree : FileTree) (cwd : Place) (nextPid : Pid)
    (input : Bytes) :
    let start := initial options tree cwd nextPid input
    (∀ p, AtPrompt env start p →
      p.flags.waiting = false ∧ p.flags.pending = [] ∧
      p.flags.foregroundOnly = p.machine.transcript.flips ∧
      (p.apply (.signal .terminalStop)).flags.foregroundOnly = !p.flags.foregroundOnly ∧
      (p.apply (.signal .terminalStop)).machine.transcript = p.machine.transcript ++
        [.received Signal.terminalStop, .said (.notice (.ofMode (!p.flags.foregroundOnly))),
          .said (.prompt options.prompt)] ∧
      (∀ name, (p.apply (.signal .terminalStop)).machine.transcript.bytesOn name .out =
        p.machine.transcript.bytesOn name .out ++
          Text.encode (noticeText (.ofMode (!p.flags.foregroundOnly))) ++
          Text.encode options.prompt) ∧
      ∀ pid, .forked pid false ∈ p.machine.transcript →
        p.machine.transcript.TellsAfterWait options.prompt pid) ∧
      (∀ s r final pid, Reaches env start s → s.step env r = (final, .stuck pid) →
        ∃ before during, final.machine.transcript = before ++ .forked pid false :: during ∧
          ∀ e ∈ during, e.isMeanwhile true = true) ∧
      (∀ m code, LeavesFrom env start m code →
        m.flags.pending = [] ∧ (m.leave code).1.flags.pending = []) ∧
      (∀ arrivals code, (start.run env arrivals).2 = .returned code →
        (start.run env arrivals).1.flags.pending = []) ∧
      ∀ code, (start.runShared env).2 = .returned code →
        (start.runShared env).1.flags.pending = [] := by
  intro start
  have orderly : start.Orderly := orderly_initial options tree cwd nextPid input
  have steady : Steady start start := steady_initial options tree cwd nextPid input
  refine ⟨fun p prompt => ?_, fun s r final pid reach stuck => ?_, fun m code left => ?_,
    fun arrivals code returned => ?_, fun code returned => ?_⟩
  · obtain ⟨now, none_held⟩ := prompt.steady steady
    obtain ⟨flipped, shown⟩ := receive_terminalStop now.idle
    have asked : start.options.prompt = options.prompt := rfl
    rw [now.options, asked] at shown
    have appears := Transcript.bytesOn_notices_prompt shown
    refine ⟨now.idle, none_held, now.mode, flipped, ?_, fun name => ?_, fun pid forked => ?_⟩
    · rw [shown]
      simp [Transcript.ofNotices]
    · rw [appears name]
      simp [Entry.bytesOn]
    obtain ⟨q, t, how, during, closing, rfl, at_prompt⟩ := prompt.waited orderly steady rfl forked
    exact at_prompt.tellsAfterWait
  · exact step_stuck (reach.steady steady).idle stuck
  · exact ⟨(left.pending steady).2, left.pending_leave steady⟩
  · obtain ⟨m, left, same⟩ := listen_returned (Input.exists_end_readingsFrom _ _ _ _) returned
    have none_held := left.pending_leave steady
    rwa [← same] at none_held
  · obtain ⟨m, left, same⟩ := listenShared_returned (Input.exists_end_readingsFrom _ _ _ _) returned
    have none_held := left.pending_leave steady
    rwa [← same] at none_held

/-- Three terminal stops during a wait: the mode ends up on, and two notices tell of it. -/
theorem mode_is_displayed_after_three_stops :
    let p := ((memoryShell 1).rounds memoryEnvironment [lineAfter "tstp 3" []]).prompted [[]]
    AtPrompt memoryEnvironment (memoryShell 1) p ∧ p.flags.foregroundOnly = true ∧
      p.flags.pending = [] ∧
      p.machine.transcript.drop 9 =
        [.collected 1001, .said (.notice .exited), .said (.notice .entered),
          .said (.prompt ": "), .awaiting] ∧
      p.machine.transcript.TellsAfterWait ": " 1001 := by
  intro p
  have prompt : AtPrompt memoryEnvironment (memoryShell 1) p :=
    ⟨_, [[]], reaches_rounds (by decide +kernel), rfl⟩
  obtain ⟨-, none_held, -, -, -, -, told⟩ := (mode_is_displayed _ _ _ _ _).1 p prompt
  exact ⟨prompt, by decide +kernel, none_held, by decide +kernel, told 1001 (by decide +kernel)⟩

end Session

end JobShell
