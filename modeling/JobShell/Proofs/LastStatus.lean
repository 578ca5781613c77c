import JobShell.Proofs.Rounds

/-!
# The last status

The shell keeps one end, which only a foreground child can change: that of the most recent one whose
end could be told. `Transcript.lastOutcome` reads it off a transcript.

* `Orderly.foregroundEnds_append`: no foreground child is made before and dead after a prompt, so
  what a round adds to the transcript can be looked at on its own.
* `status_is_last_outcome`: at every prompt the last status is what the transcript says.
-/

namespace JobShell

/-! ## Ends in a transcript -/

/-- The end that an entry tells of a foreground child, made according to a transcript. -/
def Entry.foregroundEnd? (made : Transcript) : Entry → Option Termination
  | .died pid how => if .forked pid false ∈ made then some how else none
  | _ => none

namespace Transcript

/-- How the foreground children have ended, in order. -/
def foregroundEnds (t : Transcript) : List Termination :=
  t.filterMap (Entry.foregroundEnd? t)

/-- The end of the most recent foreground child whose end can be told; that of a success, if there
is none. -/
def lastOutcome (t : Transcript) : Termination :=
  (t.foregroundEnds.filter (·.isClassic)).getLast?.getD .success

variable {t u : Transcript} {pid : Pid} {how : Termination}

/-- Without a foreground child there is no such end. -/
theorem foregroundEnds_eq_nil (none_made : ∀ q, .forked q false ∉ t) : t.foregroundEnds = [] := by
  apply List.filterMap_eq_nil_iff.2
  intro e _
  cases e with
  | died q how => exact if_neg (none_made q)
  | _ => rfl

/-- If there is one foreground child, its own history tells of its end. -/
theorem foregroundEnds_eq_history (only : ∀ q, .forked q false ∈ t → q = pid)
    (made : .forked pid false ∈ t) : t.foregroundEnds = (t.history pid).foregroundEnds := by
  unfold foregroundEnds history
  rw [List.filterMap_filter]
  apply List.filterMap_congr
  intro e _
  cases e with
  | died q how =>
    by_cases same : q = pid
    · subst same
      simp [Entry.foregroundEnd?, Entry.child?, made]
    · have unmade : .forked q false ∉ t := fun member => same (only q member)
      simp [Entry.foregroundEnd?, Entry.child?, same, unmade]
  | _ => simp [Entry.foregroundEnd?]

/-- One more end is the last one if it can be told, and makes no difference if it cannot. -/
theorem lastOutcome_concat (ends : u.foregroundEnds = t.foregroundEnds ++ [how]) :
    u.lastOutcome = if how.isClassic then how else t.lastOutcome := by
  unfold lastOutcome
  rw [ends, List.filter_append]
  cases known : how.isClassic with
  | true => simp [known]
  | false => simp [known]

end Transcript

/-- At a prompt a foreground child has been made, has died, and has been collected. -/
theorem Life.of_foreground {pid : Pid} {h : Transcript} {a : Option ChildState}
    (life : Life pid h a) (forked : .forked pid false ∈ h) :
    ∃ how, h = [.forked pid false, .died pid how, .collected pid] := by
  cases life with
  | unborn => cases forked
  | awaited how => exact ⟨how, rfl⟩
  | working _ => simp at forked
  | fallen fallen => exact absurd forked fallen.not_foreground
  | lost fallen _ => exact absurd (by simpa using forked) fallen.not_foreground
  | reported fallen _ => exact absurd (by simpa using forked) fallen.not_foreground

namespace Session

variable {env : Environment} {start s s' p q t : Session} {r : Reading} {added : Transcript}
variable {how : Termination} {during closing : Transcript} {pid : Pid}

/-! ## Additions to a transcript -/

/-- What is added to a transcript is added to the histories. -/
theorem historyOf_of_grown (grown : s'.machine.transcript = s.machine.transcript ++ added)
    (pid : Pid) : s'.historyOf pid = s.historyOf pid ++ added.history pid := by
  rw [historyOf, grown, Transcript.history_append, historyOf]

/-- All that an orderly session tells of a foreground child. -/
theorem Orderly.of_foreground (orderly : s.Orderly)
    (forked : .forked pid false ∈ s.machine.transcript) :
    ∃ how, s.historyOf pid = [.forked pid false, .died pid how, .collected pid] :=
  (orderly.life pid).of_foreground (mem_historyOf.2 ⟨forked, rfl⟩)

/-- All that is told of a foreground child is told before a prompt or after it. -/
theorem Orderly.foregroundEnds_append (orderly : s.Orderly) (orderly' : s'.Orderly)
    (grown : s'.machine.transcript = s.machine.transcript ++ added) :
    s'.machine.transcript.foregroundEnds =
      s.machine.transcript.foregroundEnds ++ added.foregroundEnds := by
  have early : ∀ pid how, .died pid how ∈ s.machine.transcript →
      (.forked pid false ∈ s'.machine.transcript ↔ .forked pid false ∈ s.machine.transcript) := by
    intro pid how died
    refine ⟨fun forked => ?_, fun forked => grown ▸ List.mem_append_left _ forked⟩
    obtain ⟨how', whole⟩ := orderly'.of_foreground forked
    have told : .died pid how ∈ s.historyOf pid := mem_historyOf.2 ⟨died, rfl⟩
    obtain ⟨first, rest, parts⟩ := List.exists_cons_of_ne_nil (List.ne_nil_of_mem told)
    rw [historyOf_of_grown grown, parts, List.cons_append] at whole
    obtain rfl : first = .forked pid false := (List.cons.inj whole).1
    exact (mem_historyOf.1 (parts ▸ List.mem_cons_self)).1
  have late : ∀ pid how, .died pid how ∈ added →
      (.forked pid false ∈ s'.machine.transcript ↔ .forked pid false ∈ added) := by
    intro pid how died
    refine ⟨fun forked => ?_, fun forked => grown ▸ List.mem_append_right _ forked⟩
    rw [grown] at forked
    rcases List.mem_append.1 forked with before | after
    · obtain ⟨how₁, whole⟩ := orderly.of_foreground before
      obtain ⟨how₂, whole'⟩ :=
        orderly'.of_foreground (grown ▸ List.mem_append_left added before)
      rw [historyOf_of_grown grown, whole] at whole'
      have nothing : added.history pid = [] := by
        apply List.eq_nil_of_length_eq_zero
        have lengths := congrArg List.length whole'
        rw [List.length_append] at lengths
        simp only [List.length_cons, List.length_nil] at lengths
        omega
      have told : .died pid how ∈ added.history pid := Transcript.mem_history.2 ⟨died, rfl⟩
      rw [nothing] at told
      cases told
    · exact after
  unfold Transcript.foregroundEnds
  conv_lhs => rw [grown, List.filterMap_append]
  congr 1
  · apply List.filterMap_congr
    intro e member
    cases e with
    | died pid how => simp only [Entry.foregroundEnd?, ← grown, early pid how member]
    | _ => rfl
  · apply List.filterMap_congr
    intro e member
    cases e with
    | died pid how => simp only [Entry.foregroundEnd?, ← grown, late pid how member]
    | _ => rfl

/-- The last outcome stays where no foreground child is made. -/
theorem Orderly.lastOutcome_eq (orderly : s.Orderly) (orderly' : s'.Orderly)
    (grown : s'.machine.transcript = s.machine.transcript ++ added)
    (none_made : ∀ q, .forked q false ∉ added) :
    s'.machine.transcript.lastOutcome = s.machine.transcript.lastOutcome := by
  have ends := orderly.foregroundEnds_append orderly' grown
  rw [Transcript.foregroundEnds_eq_nil none_made, List.append_nil] at ends
  rw [Transcript.lastOutcome, ends, Transcript.lastOutcome]

/-! ## Rounds -/

/-- A foreground child that has been waited for has ended once. -/
theorem Waited.foregroundEnds (waited : Waited p t how during closing) (orderly : p.Orderly)
    (orderly' : t.Orderly) :
    (Transcript.ofWait p.newPid how during closing).foregroundEnds = [how] := by
  have made : .forked p.newPid false ∈ Transcript.ofWait p.newPid how during closing :=
    List.mem_append_left _ List.mem_cons_self
  have died : .died p.newPid how ∈ Transcript.ofWait p.newPid how during closing :=
    List.mem_append_left _ (List.mem_cons_of_mem _ (waited.died orderly.fresh))
  have whole : (Transcript.ofWait p.newPid how during closing).history p.newPid =
      t.historyOf p.newPid := by
    rw [historyOf_of_grown waited.transcript, orderly.fresh.history, List.nil_append]
  obtain ⟨how', life⟩ :=
    orderly'.of_foreground (waited.transcript ▸ List.mem_append_right _ made)
  have told := Transcript.mem_history.2 ⟨died, rfl⟩
  rw [whole, life] at told
  obtain rfl : how = how' := by simpa using told
  rw [Transcript.foregroundEnds_eq_history (fun q member => (waited.eq_of_forked member).1) made,
    whole, life]
  simp [Transcript.foregroundEnds, List.filterMap_cons, Entry.foregroundEnd?]

/-- The last status is what the transcript says. -/
def ToldByTranscript (s : Session) : Prop :=
  s.lastStatus = s.machine.transcript.lastOutcome

/-- A round sets the status to the end of its foreground child, if it has one. -/
theorem Concluded.toldByTranscript (concluded : Concluded p t) (orderly : p.Orderly)
    (orderly' : t.Orderly) (now : p.ToldByTranscript) : t.ToldByTranscript := by
  unfold ToldByTranscript at now ⊢
  cases concluded with
  | passed passed =>
    obtain ⟨added, grown, -, all⟩ := passed.heard
    have none_made : ∀ q, .forked q false ∉ added := by
      intro q member
      cases (all q false member).1
    rw [passed.lastStatus, orderly.lastOutcome_eq orderly' grown none_made, now]
  | waited waited =>
    have ends := orderly.foregroundEnds_append orderly' waited.transcript
    rw [waited.foregroundEnds orderly orderly'] at ends
    rw [waited.lastStatus, Transcript.lastOutcome_concat ends, now]

theorem Outside.toldByTranscript (h : Outside s s') (orderly : s.Orderly)
    (kept : s'.lastStatus = s.lastStatus) (now : s.ToldByTranscript) : s'.ToldByTranscript := by
  obtain ⟨added, grown, all⟩ := h.transcript
  have none_made : ∀ q, .forked q false ∉ added := by
    intro q member
    cases all _ member
  unfold ToldByTranscript at now ⊢
  rw [kept, orderly.lastOutcome_eq (orderly.outside h) grown none_made, now]

/-- The status is the last outcome at every prompt. -/
theorem Reaches.toldByTranscript (reach : Reaches env start s) (orderly : start.Orderly)
    (steady : Steady start start) (now : start.ToldByTranscript) : s.ToldByTranscript := by
  induction reach with
  | refl => exact now
  | @supply s r _ ih =>
    obtain ⟨machine, same, transcript⟩ := supply_eq s r
    rw [same]
    exact ih.trans (congrArg Transcript.lastOutcome transcript.symm)
  | @round s r earlier goes_on ih =>
    have before := earlier.orderly orderly
    have idle := (earlier.steady steady).idle
    obtain ⟨piece, -, concluded⟩ := round_concludes idle goes_on
    have taken : ((s.prompted r.waits).record (.taken piece)).ToldByTranscript :=
      (outside_taken r.waits piece s).toldByTranscript before
        (prompted_of_idle idle r.waits).lastStatus ih
    exact concluded.toldByTranscript (before.outside (outside_taken r.waits piece s))
      ((earlier.round r goes_on).orderly orderly) taken

/-- From the prompt `p` to the end `t` of its round the last status changes by the end of a foreground
child only, if that can be told; and every child made in foreground-only mode is a foreground child.
-/
structure StatusFollows (p t : Session) (added : Transcript) : Prop where
  grown : t.machine.transcript = p.machine.transcript ++ added
  kept : (∀ pid, .forked pid false ∉ added) → t.lastStatus = p.lastStatus
  changed : ∀ pid, .forked pid false ∈ added →
    ∃ how, .died pid how ∈ added ∧ t.lastStatus = if how.isClassic then how else p.lastStatus
  foregroundOnly : p.flags.foregroundOnly = true → ∀ pid, .forked pid true ∉ added

/-- What a round tells, and the status that follows from it. -/
theorem Concluded.statusFollows (concluded : Concluded p t) (fresh : p.Fresh) :
    ∃ added, StatusFollows p t added := by
  cases concluded with
  | passed passed =>
    obtain ⟨added, grown, -, all⟩ := passed.heard
    refine ⟨added, grown, fun _ => passed.lastStatus, fun pid member => ?_, fun on pid member => ?_⟩
    · cases (all pid false member).1
    · have off := (all pid true member).2
      rw [on] at off
      cases off
  | @waited how during closing waited =>
    have made : .forked p.newPid false ∈ Transcript.ofWait p.newPid how during closing :=
      List.mem_append_left _ List.mem_cons_self
    refine ⟨_, waited.transcript, fun none_made => absurd made (none_made _),
      fun pid member => ?_, fun _ pid member => ?_⟩
    · rw [(waited.eq_of_forked member).1]
      exact ⟨how, List.mem_append_left _ (List.mem_cons_of_mem _ (waited.died fresh)),
        waited.lastStatus⟩
    · cases (waited.eq_of_forked member).2

theorem StatusFollows.of_taken {piece : Bytes}
    (follows : StatusFollows (p.record (.taken piece)) t added) :
    StatusFollows p t (.taken piece :: added) := by
  have forked : ∀ pid background,
      .forked pid background ∈ .taken piece :: added ↔ .forked pid background ∈ added := by
    simp
  refine ⟨?_, fun none_made => ?_, fun pid member => ?_, fun on pid member => ?_⟩
  · rw [follows.grown]
    exact List.append_assoc _ [_] _
  · exact follows.kept fun pid member => none_made pid ((forked pid false).2 member)
  · obtain ⟨how, died, changed⟩ := follows.changed pid ((forked pid false).1 member)
    exact ⟨how, List.mem_cons_of_mem _ died, changed⟩
  · exact follows.foregroundOnly on pid ((forked pid true).1 member)

theorem round_statusFollows (orderly : s.Orderly) (idle : s.flags.waiting = false)
    (goes_on : (s.round env r).2 = none) :
    ∃ added, StatusFollows (s.prompted r.waits) (s.round env r).1 added := by
  obtain ⟨piece, -, concluded⟩ := round_concludes idle goes_on
  have fresh := (orderly.outside (outside_taken r.waits piece s)).fresh
  obtain ⟨added, follows⟩ := concluded.statusFollows fresh
  exact ⟨_, follows.of_taken⟩

/-! ## What is shown -/

/-- In the transcript the line about a signal that has killed a foreground child appears on standard
output after the child has been made, and no prompt has come between. -/
def TellsEnd (t : Transcript) (pid : Pid) (n : Signal) : Prop :=
  ∃ before between after : Transcript,
    t = before ++ .forked pid false :: between ++ .said (.interrupted (.signaled n)) :: after ∧
    t.ShowsBetween (before ++ .forked pid false :: between) (fun _ => killedLine n) after ∧
    ∀ shown, .said (.prompt shown) ∉ between

/-- The line about a foreground child that was killed comes right after the child is collected, and
no prompt comes between. -/
theorem WaitedAt.tellsEnd {n : Signal} (at_prompt : WaitedAt start p q t how during closing)
    (orderly : p.Orderly) (killed : .died q.newPid (.signaled n) ∈ p.machine.transcript)
    (classic : n ≤ Signal.maxClassic) : TellsEnd p.machine.transcript q.newPid n := by
  obtain ⟨-, -, orderly', waited, rest, shown⟩ := at_prompt
  have grown : p.machine.transcript = q.machine.transcript ++
      Transcript.ofWait q.newPid how during closing ++ t.shows ++ rest := by
    rw [shown, waited.transcript]
  have died : .died q.newPid how ∈ p.machine.transcript := by
    rw [grown, Transcript.ofWait]
    simp [waited.died orderly'.fresh]
  have forked : .forked q.newPid false ∈ p.machine.transcript := by
    rw [grown, Transcript.ofWait]
    simp
  obtain ⟨how', life⟩ := orderly.of_foreground forked
  have first := mem_historyOf.2 ⟨died, rfl⟩
  have second := mem_historyOf.2 ⟨killed, rfl⟩
  rw [life] at first second
  obtain rfl : how = how' := by simpa using first
  obtain rfl : .signaled n = how := by simpa using second
  have told : (Termination.signaled n).interruption = [.said (.interrupted (.signaled n))] :=
    if_pos classic
  have whole : p.machine.transcript =
      q.machine.transcript ++ .forked q.newPid false :: (during ++ [.collected q.newPid]) ++
        .said (.interrupted (.signaled n)) :: (closing ++ t.shows ++ rest) := by
    rw [grown, Transcript.ofWait, told]
    simp
  refine ⟨_, during ++ [.collected q.newPid], _, whole,
    Transcript.showsBetween_of_eq whole fun _ => Entry.bytesOn_interrupted, fun text member => ?_⟩
  · rcases List.mem_append.1 member with meanwhile | collected
    · cases waited.meanwhile _ meanwhile
    · simp at collected

/-- A line whose command is `status` shows the last status and changes nothing. -/
theorem handlePiece_status {piece : Bytes} {line : String} {c : Command}
    (accepted : Line.accept p.options piece = .ok line)
    (parsed : Command.parse (p.context env) line = .ok c) (named : c.program = "status")
    (meanwhile : List Event) :
    p.handlePiece env piece meanwhile = (p.say (.status p.lastStatus), .ok) := by
  have there : c.isBlank = false := by
    cases words : c.argv with
    | nil => simp [Command.program, words] at named
    | cons word rest => simp [Command.isBlank, words]
  have spoken : c.isComment = false := by
    rw [Command.isComment, named]
    decide
  have builtin : Builtin.ofName? c.program = some .status := by
    rw [named]
    decide
  rw [handlePiece_eq, accepted]
  show p.handleLine env line meanwhile = _
  rw [handleLine_eq, parsed]
  show p.dispatch env c meanwhile = _
  rw [dispatch_eq, there, spoken, builtin]
  rfl

/-- At every prompt the last status is the end of the most recent foreground child whose end could be
told, or a success. It changes in a round that makes a foreground child, and in no other; a line
`status` shows it on standard output and nothing else. For a foreground child that a classic signal
has killed a line with the signal appears before the next prompt. -/
theorem status_is_last_outcome (options : Options) (tree : FileTree) (cwd : Place) (nextPid : Pid)
    (input : Bytes) :
    let start := initial options tree cwd nextPid input
    (∀ p, AtPrompt env start p → p.lastStatus = p.machine.transcript.lastOutcome) ∧
      (∀ s r, Reaches env start s → (s.round env r).2 = none →
        (s.prompted r.waits).lastStatus = s.lastStatus ∧
          ∃ added, StatusFollows (s.prompted r.waits) (s.round env r).1 added) ∧
      (∀ s r piece line c, Reaches env start s → r.piece = some piece →
        Line.accept options piece = .ok line →
        Command.parse ((s.prompted r.waits).context env) line = .ok c → c.program = "status" →
        s.step env r = (((s.prompted r.waits).record (.taken piece)).say
          (.status (s.prompted r.waits).machine.transcript.lastOutcome), .ok) ∧
        ∀ name, (s.step env r).1.machine.transcript.bytesOn name .out =
          (s.prompted r.waits).machine.transcript.bytesOn name .out ++
            Text.encode (statusLine (s.prompted r.waits).machine.transcript.lastOutcome)) ∧
      ∀ p, AtPrompt env start p → ∀ pid n, .forked pid false ∈ p.machine.transcript →
        .died pid (.signaled n) ∈ p.machine.transcript → n ≤ Signal.maxClassic →
        TellsEnd p.machine.transcript pid n := by
  intro start
  have orderly : start.Orderly := orderly_initial options tree cwd nextPid input
  have steady : Steady start start := steady_initial options tree cwd nextPid input
  have told : ∀ p, AtPrompt env start p → p.ToldByTranscript := by
    rintro p ⟨s, waits, reach, rfl⟩
    have idle := (reach.steady steady).idle
    exact (outside_prompted waits s).toldByTranscript (reach.orderly orderly)
      (prompted_of_idle idle waits).lastStatus (reach.toldByTranscript orderly steady rfl)
  refine ⟨told, fun s r reach goes_on => ?_,
    fun s r piece line c reach taken accepted parsed named => ?_,
    fun p prompt pid n forked killed classic => ?_⟩
  · have idle := (reach.steady steady).idle
    exact ⟨(prompted_of_idle idle r.waits).lastStatus,
      round_statusFollows (reach.orderly orderly) idle goes_on⟩
  · have prompt : AtPrompt env start (s.prompted r.waits) := ⟨s, r.waits, reach, rfl⟩
    have now : (s.prompted r.waits).lastStatus =
        (s.prompted r.waits).machine.transcript.lastOutcome := told _ prompt
    have same : (s.prompted r.waits).options = options :=
      (prompt.steady steady).1.options
    have shown : s.step env r = (((s.prompted r.waits).record (.taken piece)).say
        (.status (s.prompted r.waits).machine.transcript.lastOutcome), .ok) := by
      rw [step_eq, taken, ← now]
      exact handlePiece_status (p := (s.prompted r.waits).record (.taken piece)) (same ▸ accepted)
        parsed named r.meanwhile
    refine ⟨shown, fun name => ?_⟩
    have whole : (s.step env r).1.machine.transcript =
        (s.prompted r.waits).machine.transcript ++ [.taken piece] ++
          [.said (.status (s.prompted r.waits).machine.transcript.lastOutcome)] := by
      rw [shown]
      rfl
    rw [whole, Transcript.bytesOn_append, Transcript.bytesOn_append, Transcript.bytesOn_cons,
      Transcript.bytesOn_cons, Entry.bytesOn_status]
    simp [Entry.bytesOn]
  · have orderly' : p.Orderly := by
      obtain ⟨s, waits, reach, rfl⟩ := prompt
      exact (reach.orderly orderly).outside (outside_prompted waits s)
    obtain ⟨q, t, how, during, closing, rfl, at_prompt⟩ := prompt.waited orderly steady rfl forked
    exact at_prompt.tellsEnd orderly' killed classic

/-- A foreground child that is killed, a job that exits, and a foreground child whose end cannot be
told. -/
def statusLines : List Reading :=
  [lineAfter "killself 9" [], lineAfter "exitwith 3 &" [], lineAfter "killself 34" []]

/-- After a child that a signal has killed, and one whose end cannot be told, `status` shows the
first. -/
theorem status_is_last_outcome_after_kill :
    let s := (memoryShell 1).rounds memoryEnvironment statusLines
    let p := s.prompted [[]]
    AtPrompt memoryEnvironment (memoryShell 1) p ∧
      p.machine.transcript.foregroundEnds = [.signaled 9, .signaled 34] ∧
      p.lastStatus = .signaled 9 ∧
      (s.step memoryEnvironment (lineAfter "status" [])).1.machine.transcript =
        p.machine.transcript ++ [.taken (Text.encode "status"), .said (.status (.signaled 9))] ∧
      TellsEnd p.machine.transcript 1001 9 := by
  intro s p
  have reach : Reaches memoryEnvironment (memoryShell 1) s := reaches_rounds (by decide +kernel)
  have prompt : AtPrompt memoryEnvironment (memoryShell 1) p := ⟨_, [[]], reach, rfl⟩
  have outcome : p.machine.transcript.lastOutcome = .signaled 9 := by decide +kernel
  obtain ⟨told, -, shown, ended⟩ := @status_is_last_outcome memoryEnvironment _ _ _ _ _
  have step := shown s (lineAfter "status" []) _ "status" { argv := ["status"] } reach rfl
    (by decide +kernel) (by decide +kernel) (by decide)
  obtain ⟨step, -⟩ := step
  refine ⟨prompt, by decide +kernel, (told p prompt).trans outcome, ?_,
    ended p prompt 1001 9 (by decide +kernel) (by decide +kernel) (by decide)⟩
  rw [step, ← outcome]
  exact List.append_assoc _ _ _

end Session

end JobShell
