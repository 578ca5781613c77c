import JobShell.Proofs.Course

/-!
# Signals that make no difference

The shell ignores interrupts, and the news that a child has ended makes it look for dead children
after the next line and nothing else. As long as every death is told, there is none to be found when
the news is false. So two runs that differ in nothing but how often the shell gets these signals
differ in nothing but that (`Session.SameButIdle`).

* `sameButIdle_iff`: such sessions are alike as to everything else.
* `SameButIdle.afterLine`: a pass of the reaper, for which perhaps only one of two runs sees a reason.
* `idle_signals_are_unseen`: whole runs, and the text that appears from prompt to prompt.
-/

namespace JobShell

/-! ## Idle signals -/

/-- Whether a signal tells the shell nothing by itself. -/
def Signal.isIdle (n : Signal) : Bool :=
  n == interrupt || n == childEnded

/-- Whether an entry is that the shell receives an idle signal. -/
def Entry.isIdle : Entry → Bool
  | .received n => n.isIdle
  | _ => false

/-- Whether an event is that an idle signal reaches the shell. -/
def Event.isIdle : Event → Bool
  | .signal n => n.number.isIdle
  | _ => false

namespace Transcript

variable {t u : Transcript}

/-- What a transcript tells apart from idle signals. -/
def heeded (t : Transcript) : Transcript :=
  t.filter fun e => !e.isIdle

theorem heeded_append (t u : Transcript) : (t ++ u).heeded = t.heeded ++ u.heeded :=
  List.filter_append _ _

theorem heeded_cons_of_idle {e : Entry} (idle : e.isIdle = true) : heeded (e :: t) = t.heeded :=
  List.filter_cons_of_neg (by simp [idle])

theorem heeded_cons_of_not_idle {e : Entry} (other : e.isIdle = false) :
    heeded (e :: t) = e :: t.heeded :=
  List.filter_cons_of_pos (by simp [other])

theorem mem_heeded {e : Entry} (other : e.isIdle = false) : e ∈ t.heeded ↔ e ∈ t := by
  simp [heeded, other]

theorem startedPids_heeded (t : Transcript) : t.heeded.startedPids = t.startedPids := by
  unfold heeded startedPids
  rw [List.filterMap_filter]
  refine List.filterMap_congr fun e _ => ?_
  cases e with
  | received n => cases n.isIdle <;> simp [Entry.isIdle, Entry.started?]
  | _ => rfl

theorem history_heeded (t : Transcript) (pid : Pid) : t.heeded.history pid = t.history pid := by
  unfold heeded history
  rw [List.filter_filter]
  refine List.filter_congr fun e _ => ?_
  cases e with
  | received n => simp [Entry.child?]
  | _ => simp [Entry.isIdle]

/-- Jobs are numbered in the same way in transcripts that differ in idle signals. -/
theorem job?_of_heeded (same : u.heeded = t.heeded) (n : Nat) : u.job? n = t.job? n := by
  have started : u.startedPids = t.startedPids := by
    rw [← startedPids_heeded, same, startedPids_heeded]
  cases n with
  | zero => rfl
  | succ n => exact congrArg (·[n]?) started

theorem classic_of_heeded (same : u.heeded = t.heeded) (classic : t.Classic) : u.Classic := by
  intro e member
  cases idle : e.isIdle with
  | true =>
    cases e with
    | received n => rfl
    | _ => cases idle
  | false =>
    rw [← mem_heeded idle, same, mem_heeded idle] at member
    exact classic e member

/-- What appears on a stream from wait to wait, as bytes. -/
def bytesByWait (name : Pid → String) (stream : Stream) (t : Transcript) : List Bytes :=
  t.segments.map (bytesOn name stream)

theorem segments_ne_nil (t : Transcript) : t.segments ≠ [] := by
  cases t with
  | nil => simp [segments]
  | cons e t =>
    unfold segments
    split
    · simp
    · simp
    · split <;> simp

/-- The text of an entry goes to the wait that it falls into. -/
theorem bytesByWait_cons {e : Entry} (name : Pid → String) (stream : Stream)
    (other : e ≠ .awaiting) : bytesByWait name stream (e :: t) =
      (t.bytesByWait name stream).modifyHead (e.bytesOn name stream ++ ·) := by
  have parts : segments (e :: t) = t.segments.modifyHead (e :: ·) := by
    rw [segments]
    · cases segmented : t.segments with
      | nil => exact absurd segmented (segments_ne_nil t)
      | cons first rest => rfl
    · exact other
  unfold bytesByWait
  rw [parts]
  cases t.segments with
  | nil => rfl
  | cons first rest => rfl

/-- Nobody sees the shell receive an idle signal. -/
theorem bytesByWait_heeded (name : Pid → String) (stream : Stream) (t : Transcript) :
    t.heeded.bytesByWait name stream = t.bytesByWait name stream := by
  induction t with
  | nil => rfl
  | cons e t ih =>
    cases idle : e.isIdle with
    | true =>
      have unseen : e.bytesOn name stream = [] := by
        cases e with
        | received n => rfl
        | _ => cases idle
      have other : e ≠ .awaiting := fun same => by
        rw [same] at idle
        cases idle
      rw [heeded_cons_of_idle idle, ih, bytesByWait_cons name stream other, unseen]
      cases bytesByWait name stream t with
      | nil => rfl
      | cons first rest => rfl
    | false =>
      rw [heeded_cons_of_not_idle idle]
      by_cases waiting : e = .awaiting
      · rw [waiting]
        exact congrArg ([] :: ·) ih
      · rw [bytesByWait_cons name stream waiting, ih, bytesByWait_cons name stream waiting]

end Transcript

/-! ## Inputs that differ in idle signals -/

/-- The same happens in `es` and in `fs`, apart from idle signals. -/
def Event.SameButIdle (es fs : List Event) : Prop :=
  (fs.filter fun e => !e.isIdle) = es.filter fun e => !e.isIdle

/-- Two portions of input that differ in nothing but the idle signals that come with them. -/
structure Arrival.SameButIdle (a b : Arrival) : Prop where
  before : Event.SameButIdle a.before b.before
  bytes : b.bytes = a.bytes
  meanwhile : Event.SameButIdle a.meanwhile b.meanwhile

/-- Two reads of a line that differ in nothing but the idle signals that come with them. -/
structure Reading.SameButIdle (r q : Reading) : Prop where
  waits : List.Forall₂ Event.SameButIdle r.waits q.waits
  held : q.held = r.held
  piece : q.piece = r.piece
  meanwhile : Event.SameButIdle r.meanwhile q.meanwhile

theorem Reading.SameButIdle.refl (r : Reading) : Reading.SameButIdle r r :=
  ⟨List.forall₂_same.2 fun _ _ => rfl, rfl, rfl, rfl⟩

namespace Input

variable {as bs : List Arrival} {waits waits' : List (List Event)}

theorem forall₂_atEnd (waited : List.Forall₂ Event.SameButIdle waits waits') (held left : Bytes) :
    List.Forall₂ Reading.SameButIdle (atEnd waits held left) (atEnd waits' held left) := by
  unfold atEnd
  split
  · exact .cons ⟨waited, rfl, rfl, rfl⟩ .nil
  · exact .cons ⟨waited, rfl, rfl, rfl⟩ (.cons (.refl _) .nil)

theorem forall₂_readingsFrom (arrived : List.Forall₂ Arrival.SameButIdle as bs)
    (waited : List.Forall₂ Event.SameButIdle waits waits') (held left : Bytes) :
    List.Forall₂ Reading.SameButIdle (readingsFrom waits held left as)
      (readingsFrom waits' held left bs) := by
  induction arrived generalizing waits waits' held left with
  | nil => exact forall₂_atEnd waited held left
  | @cons a b as bs same _ ih =>
    have waited' : List.Forall₂ Event.SameButIdle (waits ++ [a.before]) (waits' ++ [b.before]) :=
      List.rel_append waited (.cons same.before .nil)
    unfold readingsFrom
    rw [same.bytes]
    dsimp only
    split
    · exact forall₂_atEnd waited' held left
    · split
      · exact ih waited' held _
      · refine .cons ⟨waited', rfl, rfl, same.meanwhile⟩ (List.rel_append ?_ (ih .nil _ _))
        exact List.forall₂_same.2 fun r _ => .refl r

/-- Portions of input that differ in idle signals are read in the same lines. -/
theorem forall₂_readings (arrived : List.Forall₂ Arrival.SameButIdle as bs) :
    List.Forall₂ Reading.SameButIdle (readings as) (readings bs) :=
  forall₂_readingsFrom arrived .nil [] []

end Input

/-! ## Sessions that differ in idle signals -/

theorem Transcript.heeded_append_congr {t u : Transcript} (heeded : u.heeded = t.heeded)
    (added : Transcript) : Transcript.heeded (u ++ added) = Transcript.heeded (t ++ added) := by
  rw [heeded_append, heeded_append, heeded]

/-- Sessions may differ in the idle signals that have been told, and in whether a child has ended. -/
def Likeness.idle : Likeness where
  jobs := Eq
  maxJobs := Eq
  childEnded _ _ := True
  transcript t u := u.heeded = t.heeded
  opened := Eq
  track := same.track
  untrack := same.untrack
  childEnded_same _ := trivial
  record e heeded := Transcript.heeded_append_congr heeded [e]
  job? n heeded := Transcript.job?_of_heeded heeded n
  count := same.count
  grow := same.grow
  writers := same.writers

/-- Idle signals make no difference to any open file. -/
theorem Likeness.idle_shares (id : OpenId) : idle.Shares id := by
  rintro fs gs rfl
  exact ⟨rfl, fun _ => rfl⟩

namespace Session

variable {env : Environment} {s t m : Session} {pid : Pid}

/-- The session `t` is `s` but for the idle signals that the shell has got, and for whether it has
been told that a child has ended. -/
structure SameButIdle (s t : Session) : Prop where
  options : t.options = s.options
  jobs : t.jobs = s.jobs
  lastStatus : t.lastStatus = s.lastStatus
  flags : t.flags = { s.flags with childEnded := t.flags.childEnded }
  descriptors : t.descriptors = s.descriptors
  machine : t.machine = { s.machine with transcript := t.machine.transcript }
  transcript : t.machine.transcript.heeded = s.machine.transcript.heeded

/-- To be the same but for idle signals is a likeness. -/
theorem sameButIdle_iff : SameButIdle s t ↔ Like .idle s t := by
  constructor
  · rintro ⟨options, jobs, lastStatus, flags, descriptors, machine, heeded⟩
    have opened : t.machine.opened = s.machine.opened := by rw [machine]
    refine ⟨?_, ⟨jobs.symm, congrArg Options.maxJobs options.symm, trivial, heeded, opened.symm⟩⟩
    cases t
    dsimp only at options jobs lastStatus flags descriptors machine opened
    subst options jobs lastStatus descriptors
    rw [inGuise, guise, opened, ← flags, ← machine]
  · intro like
    obtain ⟨⟨jobs, maxJobs, ended, transcript, opened⟩, ⟨same, fits, -, heeded, kept⟩, rfl⟩ :=
      like.exists_guise
    dsimp only at same fits heeded kept
    subst same fits kept
    exact ⟨rfl, rfl, rfl, rfl, rfl, rfl, heeded⟩

theorem SameButIdle.refl (s : Session) : SameButIdle s s :=
  ⟨rfl, rfl, rfl, rfl, rfl, rfl, rfl⟩

theorem SameButIdle.symm (same : SameButIdle s t) : SameButIdle t s where
  options := same.options.symm
  jobs := same.jobs.symm
  lastStatus := same.lastStatus.symm
  flags := by rw [same.flags]
  descriptors := same.descriptors.symm
  machine := by rw [same.machine]
  transcript := same.transcript.symm

theorem SameButIdle.trans (first : SameButIdle s t) (second : SameButIdle t m) :
    SameButIdle s m where
  options := second.options.trans first.options
  jobs := second.jobs.trans first.jobs
  lastStatus := second.lastStatus.trans first.lastStatus
  flags := second.flags.trans (by rw [first.flags])
  descriptors := second.descriptors.trans first.descriptors
  machine := second.machine.trans (by rw [first.machine])
  transcript := second.transcript.trans first.transcript

/-! ## What happens to both -/

/-- An idle signal makes a session one that is the same but for it. -/
theorem sameButIdle_apply_of_idle {event : Event} (idle : event.isIdle = true) (s : Session) :
    SameButIdle s (s.apply event) := by
  cases event with
  | signal n =>
    have unheeded : (Entry.received n.number).isIdle = true := idle
    have heeded : Transcript.heeded (s.machine.transcript ++ [.received n.number]) =
        s.machine.transcript.heeded := by
      rw [Transcript.heeded_append, Transcript.heeded_cons_of_idle unheeded]
      exact List.append_nil _
    show SameButIdle s (s.receive n)
    cases n with
    | interrupt => exact ⟨rfl, rfl, rfl, rfl, rfl, rfl, heeded⟩
    | childEnded => exact ⟨rfl, rfl, rfl, rfl, rfl, rfl, heeded⟩
    | terminalStop => cases idle
  | _ => cases idle

/-- The same events keep two sessions the same but for idle signals. -/
theorem SameButIdle.applyAll (same : SameButIdle s t) (events : List Event) :
    SameButIdle (s.applyAll events) (t.applyAll events) :=
  sameButIdle_iff.2 ((sameButIdle_iff.1 same).applyAll events)

/-- Idle signals can be left out of what happens. -/
theorem sameButIdle_applyAll_filter (events : List Event) (s : Session) :
    SameButIdle (s.applyAll events) (s.applyAll (events.filter fun e => !e.isIdle)) := by
  induction events generalizing s with
  | nil => exact .refl s
  | cons event events ih =>
    cases idle : event.isIdle with
    | true =>
      rw [List.filter_cons_of_neg (by simp [idle])]
      exact (ih (s.apply event)).trans ((sameButIdle_apply_of_idle idle s).symm.applyAll _)
    | false =>
      rw [List.filter_cons_of_pos (by simp [idle])]
      exact ih (s.apply event)

theorem matches_of_sameButIdle {es fs : List Event} (events : Event.SameButIdle es fs) :
    Matches .idle es fs := by
  intro s t like
  have filtered := sameButIdle_applyAll_filter fs t
  rw [events] at filtered
  have same := sameButIdle_iff.2 like
  exact sameButIdle_iff.1
    (((sameButIdle_applyAll_filter es s).trans (same.applyAll _)).trans filtered.symm)

/-- A read that differs from another in idle signals is like it. -/
theorem readsLike_of_sameButIdle {r q : Reading} (read : Reading.SameButIdle r q) :
    ReadsLike .idle r q :=
  ⟨read.waits.imp fun _ _ => matches_of_sameButIdle, read.held, read.piece,
    matches_of_sameButIdle read.meanwhile⟩

/-! ## The reaper, and the end -/

/-- Of two sessions only one may have been told that a child has ended; what comes of the pass of the
reaper is the same. -/
theorem SameButIdle.afterLine (same : SameButIdle s t) (distinct : s.pids.Nodup)
    (told : ∀ pid how, s.stateOf pid = some (.dead how) → s.flags.childEnded = true)
    (told' : ∀ pid how, t.stateOf pid = some (.dead how) → t.flags.childEnded = true) :
    SameButIdle s.afterLine t.afterLine := by
  have like := sameButIdle_iff.1 same
  have distinct' : t.pids.Nodup := by
    unfold pids
    rw [like.children]
    exact distinct
  -- A pass for which there is no reason does nothing, so both may be taken to make theirs.
  rw [afterLine_eq_pass distinct told, afterLine_eq_pass distinct' told']
  exact sameButIdle_iff.2 like.pass

/-- To leave ends the same jobs in the same way. -/
theorem SameButIdle.leave (same : SameButIdle s t) (code : Int) :
    SameButIdle (s.leave code).1 (t.leave code).1 ∧ (t.leave code).2 = (s.leave code).2 := by
  obtain ⟨ended, outcome⟩ := (sameButIdle_iff.1 same).endJobs s.jobs.toList
  unfold Session.leave shutdown
  rw [same.jobs]
  generalize Session.endJobs s.jobs.toList s = a, Session.endJobs s.jobs.toList t = b
    at ended outcome
  obtain ⟨a, result⟩ := a
  obtain ⟨b, result'⟩ := b
  dsimp only at ended outcome
  subst outcome
  have same' := sameButIdle_iff.2 ended
  cases result' with
  | none => exact ⟨same', rfl⟩
  | some pid => exact ⟨same', rfl⟩

/-! ## Whole runs -/

theorem SameButIdle.historyOf (same : SameButIdle s t) (pid : Pid) :
    t.historyOf pid = s.historyOf pid := by
  rw [Session.historyOf, ← Transcript.history_heeded, same.transcript,
    Transcript.history_heeded, Session.historyOf]

/-- Order among the children does not depend on idle signals. -/
theorem SameButIdle.orderly (same : SameButIdle s t) (orderly : s.Orderly) : t.Orderly where
  distinct := by
    unfold pids
    rw [(sameButIdle_iff.1 same).children]
    exact orderly.distinct
  life pid := by
    rw [same.historyOf, (sameButIdle_iff.1 same).stateOf]
    exact orderly.life pid
  unborn pid later := by
    rw [(sameButIdle_iff.1 same).newPid] at later
    rw [same.historyOf]
    exact orderly.unborn pid later
  table := same.jobs ▸ orderly.table
  announced pid member := by
    rw [same.jobs] at member
    have there := (Transcript.mem_heeded rfl).2 (orderly.announced pid member)
    rw [← same.transcript] at there
    exact (Transcript.mem_heeded rfl).1 there

theorem SameButIdle.swept (same : SameButIdle s t) (swept : s.Swept) : t.Swept := by
  intro classic pid how
  rw [(sameButIdle_iff.1 same).stateOf]
  exact swept (Transcript.classic_of_heeded same.transcript.symm classic) pid how

/-- A round of two runs that differ in idle signals. Both have been told of every dead child when the
reaper's turn comes, if perhaps not equally often. -/
theorem SameButIdle.passed (same : SameButIdle s t) (orderly : s.Orderly) (swept : s.Swept)
    {r q : Reading} (read : Reading.SameButIdle r q)
    (classic : (s.step env r).1.machine.transcript.Classic)
    (moves : ∀ pid, (s.step env r).2 ≠ .stuck pid) :
    Like .idle (s.step env r).1.afterLine (t.step env q).1.afterLine ∧
      ∀ e, Like .idle ((s.step env r).1.report e).afterLine
        ((t.step env q).1.report e).afterLine := by
  obtain ⟨like, outcome⟩ := (sameButIdle_iff.1 same).step Likeness.idle_shares env
    (readsLike_of_sameButIdle read)
  have same' := sameButIdle_iff.2 like
  have classic' := Transcript.classic_of_heeded same'.transcript classic
  have worked : Worked s (s.step env r).1 := worked_step orderly moves
  have worked' : Worked t (t.step env q).1 := worked_step (same.orderly orderly) (outcome ▸ moves)
  have distinct := (worked.orderly orderly).distinct
  have told := worked.alert swept.alert classic
  have told' := worked'.alert (same.swept swept).alert classic'
  exact ⟨sameButIdle_iff.1 (same'.afterLine distinct told told'), fun e =>
    sameButIdle_iff.1 ((sameButIdle_iff.2 (like.report e)).afterLine distinct told told')⟩

/-- A whole run, prompt by prompt, by induction on the lines to come. -/
theorem SameButIdle.course {s t : Session} (same : SameButIdle s t) (orderly : s.Orderly)
    (swept : s.Swept) {rs qs : List Reading} (read : List.Forall₂ Reading.SameButIdle rs qs)
    (classic : (s.listen env rs).1.machine.transcript.Classic) :
    Course.Like .idle (s.course env rs) (t.course env qs) := by
  have like := sameButIdle_iff.1 same
  induction read generalizing s t with
  | nil => exact ⟨.nil, like, rfl⟩
  | @cons r q rs qs first _ ih =>
    have told := ((continues_listen env s r rs).extends orderly).classic classic
    refine like.follow Likeness.idle_shares (readsLike_of_sameButIdle first)
      (same.passed orderly swept first told) fun goes_on like' => ?_
    have reach := reaches_of_round goes_on
    rw [listen, goes_on] at classic
    exact ih (sameButIdle_iff.2 like') (reach.orderly orderly) (reach.swept orderly swept) classic
      like'

/-- A whole run whose children share the shell's input. -/
theorem SameButIdle.courseShared {s t : Session} (same : SameButIdle s t) (orderly : s.Orderly)
    (swept : s.Swept) {rs qs : List Reading} (read : List.Forall₂ Reading.SameButIdle rs qs)
    (classic : (s.listenShared env rs).1.machine.transcript.Classic) :
    Course.Like .idle (s.courseShared env rs) (t.courseShared env qs) := by
  induction read generalizing s t with
  | nil => exact ⟨.nil, sameButIdle_iff.1 same, rfl⟩
  | @cons r q rs qs first _ ih =>
    obtain ⟨taken, there⟩ :=
      (sameButIdle_iff.1 same).supply Likeness.idle_shares (readsLike_of_sameButIdle first)
    have reach : Reaches env s (s.supply r).1 := Reaches.refl.supply r
    have orderly' := reach.orderly orderly
    have swept' := reach.swept orderly swept
    have continues := fun m (supplied : s.supply r = (m, true)) =>
      continues_listenShared supplied env rs
    rw [Session.courseShared, Session.courseShared]
    rw [listenShared] at classic continues
    generalize s.supply r = a, t.supply q = b at *
    obtain ⟨m, goes_on⟩ := a
    obtain ⟨n, goes_on'⟩ := b
    dsimp only at taken there orderly' swept' classic
    subst there
    have same' := sameButIdle_iff.2 taken
    cases goes_on' with
    | false =>
      rw [first.held]
      exact same'.course orderly' swept' (Input.forall₂_atEnd first.waits _ _) classic
    | true =>
      have told := ((continues m rfl).extends orderly').classic classic
      refine taken.follow Likeness.idle_shares (readsLike_of_sameButIdle first)
        (same'.passed orderly' swept' first told) fun goes_on like' => ?_
      have next := reaches_of_round goes_on
      dsimp only at classic
      rw [goes_on] at classic
      exact ih (sameButIdle_iff.2 like') (next.orderly orderly') (next.swept orderly' swept')
        classic

/-- Two courses that differ in nothing but idle signals. -/
structure Course.SameButIdle (c d : Course) : Prop where
  prompts : List.Forall₂ Session.SameButIdle c.prompts d.prompts
  last : Session.SameButIdle c.last d.last
  halt : d.halt = c.halt

/-- Two runs, with their courses, that differ in nothing but idle signals. -/
structure SameRun (c d : Course) (run run' : Session × Ending) : Prop where
  course : Course.SameButIdle c d
  session : SameButIdle run.1 run'.1
  ending : run'.2 = run.2
  shown : ∀ name stream, run'.1.machine.transcript.bytesByWait name stream =
    run.1.machine.transcript.bytesByWait name stream
  startedPids : run'.1.machine.transcript.startedPids = run.1.machine.transcript.startedPids

/-- What is to be said of two runs follows from their courses. -/
theorem Course.Like.sameRun {c d : Course} (like : Course.Like .idle c d) :
    SameRun c d c.close d.close := by
  have idle : ∀ s t : Session, Session.Like .idle s t → Session.SameButIdle s t := fun _ _ =>
    Session.sameButIdle_iff.2
  have last := idle _ _ like.last
  have closed : Session.SameButIdle c.close.1 d.close.1 ∧ d.close.2 = c.close.2 := by
    unfold Course.close
    rw [like.halt]
    split
    · exact last.leave _
    · exact ⟨last, rfl⟩
  obtain ⟨session, ending⟩ := closed
  have heeded := session.transcript
  refine ⟨⟨like.prompts.imp idle, last, like.halt⟩, session, ending, fun name stream => ?_, ?_⟩
  · rw [← Transcript.bytesByWait_heeded, heeded, Transcript.bytesByWait_heeded]
  · rw [← Transcript.startedPids_heeded, heeded, Transcript.startedPids_heeded]

/-- Two shells that get the same input, with the same happening meanwhile apart from interrupts and
from news that a child has ended, go through the same prompts and come to the same end as long as no
child dies of a signal above the classic ones: the same text appears from wait to wait, and job
table, last status, mode, working directory, files and children are the same at every prompt and at
the end. -/
theorem idle_signals_are_unseen (env : Environment) (options : Options) (tree : FileTree)
    (cwd : Place) (nextPid : Pid) (input : Bytes) :
    let s := initial options tree cwd nextPid input
    (∀ as bs, List.Forall₂ Arrival.SameButIdle as bs →
      (s.run env as).1.machine.transcript.Classic →
      SameRun (s.course env (Input.readings as)) (s.course env (Input.readings bs))
        (s.run env as) (s.run env bs)) ∧
    ∀ rs qs, List.Forall₂ Reading.SameButIdle rs qs →
      (s.listenShared env rs).1.machine.transcript.Classic →
      SameRun (s.courseShared env rs) (s.courseShared env qs)
        (s.listenShared env rs) (s.listenShared env qs) := by
  intro s
  have orderly := orderly_initial options tree cwd nextPid input
  have swept := swept_initial options tree cwd nextPid input
  have run : ∀ as, s.run env as = (s.course env (Input.readings as)).close := fun as =>
    listen_eq_close env _ s
  refine ⟨fun as bs arrived classic => ?_, fun rs qs read classic => ?_⟩
  · have courses := (SameButIdle.refl s).course orderly swept (Input.forall₂_readings arrived) classic
    rw [run, run]
    exact courses.sameRun
  · have courses := (SameButIdle.refl s).courseShared orderly swept read classic
    rw [listenShared_eq_close, listenShared_eq_close]
    exact courses.sameRun

/-- A job dies while the shell waits for a line, once among idle signals and once not. -/
theorem idle_signals_are_unseen_around_a_death :
    let quiet : List Arrival := [{ bytes := Text.encode "hold &\n" },
      { before := [.finish 1 3], bytes := Text.encode "true\n" },
      { bytes := Text.encode "status\n" }]
    let noisy : List Arrival := [
      { before := [.signal .childEnded], bytes := Text.encode "hold &\n" },
      { before := [.signal .interrupt, .finish 1 3], bytes := Text.encode "true\n" },
      { before := [.signal .childEnded, .signal .interrupt],
        bytes := Text.encode "status\n" }]
    let run := fun as => (memoryShell 1).run memoryEnvironment as
    List.Forall₂ Arrival.SameButIdle quiet noisy ∧
      (run quiet).1.machine.transcript.Classic ∧
      (run noisy).1.machine.transcript ≠ (run quiet).1.machine.transcript ∧
      (run noisy).2 = (run quiet).2 ∧ SameButIdle (run quiet).1 (run noisy).1 ∧
      (run noisy).1.machine.transcript.bytesByWait toString .out =
        [": ", "background pid is 1001\n: ", "background pid 1001 is done: exit value 3\n: ",
          "exit status 0\n: "].map Text.encode := by
  intro quiet noisy run
  have arrived : List.Forall₂ Arrival.SameButIdle quiet noisy :=
    .cons ⟨rfl, rfl, rfl⟩ (.cons ⟨rfl, rfl, rfl⟩ (.cons ⟨rfl, rfl, rfl⟩ .nil))
  have classic : (run quiet).1.machine.transcript.Classic := by decide +kernel
  have same := (idle_signals_are_unseen memoryEnvironment { maxJobs := 1 } FileTree.system homePlace
    (ownPid + 1) []).1 quiet noisy arrived classic
  exact ⟨arrived, classic, by decide +kernel, same.ending, same.session,
    (same.shown toString .out).trans (by decide +kernel)⟩

end Session

end JobShell
