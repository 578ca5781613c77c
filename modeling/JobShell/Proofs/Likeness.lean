import JobShell.Proofs.ModeDisplay
import JobShell.Proofs.Redirections
import Mathlib.Data.List.Forall2

/-!
# Sessions that are alike

Most of what the shell does makes no use of the job table, of what has happened before, or of what
an open file that no child touches holds. A `Likeness` says how far two sessions may differ in these;
what is done to both of them keeps them alike (`Session.Like`), and comes out the same.

* `Like.applyAll`: events.
* `Like.runChild`: a child, if it reads and writes only open files that are the same for both.
* `Like.step`: a line, if all open files are the same.
* `Like.pass`, `Like.endJobs`: a pass of the reaper, and the end of jobs.
-/

namespace JobShell

/-- The parts of a session in which two sessions that are alike may differ. -/
structure Guise where
  jobs : JobTable
  maxJobs : Nat
  childEnded : Bool
  transcript : Transcript
  opened : List OpenFile

/-- Whether an open file can be used to write to the file at a place. -/
def OpenFile.writesTo (file : OpenFile) (place : Place) : Bool :=
  file.writable && file.target == .file place

/-- Whether descriptors lead to a file opened for writing, read off the list of open files. -/
theorem Machine.isWriter_eq (m : Machine) (d : Descriptors) (place : Place) :
    m.isWriter d place = d.entries.any fun e => m.opened[e.2]?.any (·.writesTo place) := by
  unfold isWriter
  congr 1
  funext e
  cases m.opened[e.2]? <;> rfl

/-- How far two sessions may differ and still be alike. Job tables stay alike when a job goes in or
out, transcripts when something is told, and open files when one is opened. -/
structure Likeness where
  jobs : JobTable → JobTable → Prop
  maxJobs : Nat → Nat → Prop
  childEnded : Bool → Bool → Prop
  transcript : Transcript → Transcript → Prop
  opened : List OpenFile → List OpenFile → Prop
  track {t u : JobTable} (pid : Pid) : jobs t u → jobs (t.track pid).1 (u.track pid).1
  untrack {t u : JobTable} (pid : Pid) : jobs t u → jobs (t.untrack pid) (u.untrack pid)
  childEnded_same (ended : Bool) : childEnded ended ended
  record {t u : Transcript} (e : Entry) : transcript t u → transcript (t ++ [e]) (u ++ [e])
  job? {t u : Transcript} (n : Nat) : transcript t u → u.job? n = t.job? n
  count {fs gs : List OpenFile} : opened fs gs → gs.length = fs.length
  grow {fs gs : List OpenFile} (more : List OpenFile) : opened fs gs →
    opened (fs ++ more) (gs ++ more)
  writers {fs gs : List OpenFile} (id : OpenId) (place : Place) : opened fs gs →
    gs[id]?.any (·.writesTo place) = fs[id]?.any (·.writesTo place)

namespace Likeness

/-- Sessions may not differ at all. Another likeness has from here what it needs for the parts that
have to be equal. -/
def same : Likeness where
  jobs := Eq
  maxJobs := Eq
  childEnded := Eq
  transcript := Eq
  opened := Eq
  track pid eq := congrArg (fun t => (JobTable.track t pid).1) eq
  untrack pid eq := congrArg (JobTable.untrack · pid) eq
  childEnded_same _ := rfl
  record e eq := congrArg (· ++ [e]) eq
  job? n eq := congrArg (·.job? n) eq.symm
  count eq := congrArg List.length eq.symm
  grow more eq := congrArg (· ++ more) eq
  writers id place eq := by rw [eq]

/-- The parts in which two sessions may differ are within the limits. -/
structure Relates (L : Likeness) (g h : Guise) : Prop where
  jobs : L.jobs g.jobs h.jobs
  maxJobs : L.maxJobs g.maxJobs h.maxJobs
  childEnded : L.childEnded g.childEnded h.childEnded
  transcript : L.transcript g.transcript h.transcript
  opened : L.opened g.opened h.opened

/-- An open file is the same for two sessions that are alike, and so it stays when it is used. -/
def Shares (L : Likeness) (id : OpenId) : Prop :=
  ∀ {fs gs : List OpenFile}, L.opened fs gs → gs[id]? = fs[id]? ∧
    ∀ offset, L.opened (fs.modify id fun f => { f with offset })
      (gs.modify id fun f => { f with offset })

end Likeness

namespace Session

/-- The parts of a session in which others like it may differ. -/
def guise (s : Session) : Guise where
  jobs := s.jobs
  maxJobs := s.options.maxJobs
  childEnded := s.flags.childEnded
  transcript := s.machine.transcript
  opened := s.machine.opened

/-- The session with other such parts. -/
def inGuise (s : Session) (g : Guise) : Session :=
  { s with
    options := { s.options with maxJobs := g.maxJobs }
    jobs := g.jobs
    flags := { s.flags with childEnded := g.childEnded }
    machine := { s.machine with opened := g.opened, transcript := g.transcript } }

/-- Two sessions are alike. -/
structure Like (L : Likeness) (s t : Session) : Prop where
  frame : t = s.inGuise t.guise
  differs : L.Relates s.guise t.guise

/-- The same has come of two sessions, which are still alike. -/
def LikeResult {α : Type} (L : Likeness) (a b : Session × α) : Prop :=
  Like L a.1 b.1 ∧ b.2 = a.2

variable {L : Likeness} {s t : Session} {env : Environment}

/-- A session like another is the other in a guise of its own. -/
theorem Like.exists_guise (like : Like L s t) : ∃ g, L.Relates s.guise g ∧ t = s.inGuise g :=
  ⟨t.guise, like.differs, like.frame⟩

/-- The same answer from two sessions that are alike. -/
theorem Like.result {α : Type} (like : Like L s t) (a : α) : LikeResult L (s, a) (t, a) :=
  ⟨like, rfl⟩

/-! ## What the shell does itself -/

/-- What is told in both is told in transcripts that are alike. -/
theorem Like.record (like : Like L s t) (e : Entry) : Like L (s.record e) (t.record e) := by
  obtain ⟨g, differs, rfl⟩ := like.exists_guise
  exact ⟨rfl, { differs with transcript := L.record e differs.transcript }⟩

theorem Like.say (like : Like L s t) (message : Message) :
    Like L (s.say message) (t.say message) :=
  like.record _

theorem Like.sayAll (like : Like L s t) (messages : List Message) :
    Like L (s.sayAll messages) (t.sayAll messages) := by
  induction messages generalizing s t with
  | nil => exact like
  | cons message messages ih => exact ih (like.say message)

theorem Like.report (like : Like L s t) (e : ShellError) : Like L (s.report e) (t.report e) :=
  like.say _

theorem Like.setWaiting (like : Like L s t) (waiting : Bool) :
    Like L (s.setWaiting waiting) (t.setWaiting waiting) := by
  obtain ⟨g, differs, rfl⟩ := like.exists_guise
  exact ⟨rfl, { differs with }⟩

/-- A job takes the first free slot of either table. -/
theorem Like.track (like : Like L s t) (pid : Pid) : Like L (s.track pid) (t.track pid) := by
  obtain ⟨g, differs, rfl⟩ := like.exists_guise
  exact ⟨rfl, { differs with jobs := L.track pid differs.jobs }⟩

theorem Like.untrack (like : Like L s t) (pid : Pid) : Like L (s.untrack pid) (t.untrack pid) := by
  obtain ⟨g, differs, rfl⟩ := like.exists_guise
  exact ⟨rfl, { differs with jobs := L.untrack pid differs.jobs }⟩

theorem Like.collect (like : Like L s t) (pid : Pid) : Like L (s.collect pid) (t.collect pid) := by
  obtain ⟨g, differs, rfl⟩ := like.exists_guise
  exact ⟨rfl, { differs with transcript := L.record _ differs.transcript }⟩

theorem Like.stateOf (like : Like L s t) (pid : Pid) : t.stateOf pid = s.stateOf pid := by
  rw [like.frame]
  rfl

theorem Like.children (like : Like L s t) : t.machine.children = s.machine.children := by
  rw [like.frame]
  rfl

/-- The next child will have the same process id. -/
theorem Like.newPid (like : Like L s t) : t.newPid = s.newPid := by
  rw [like.frame]
  rfl

theorem Like.descriptors (like : Like L s t) : t.descriptors = s.descriptors := by
  rw [like.frame]
  rfl

/-- A piece of input is accepted or refused in the same way, the limit on jobs being no part of it.
-/
theorem Like.accept (like : Like L s t) (piece : Bytes) :
    Line.accept t.options piece = Line.accept s.options piece := by
  rw [like.frame]
  rfl

/-- A line is parsed under the same mode, shell id and limit on arguments. -/
theorem Like.context (like : Like L s t) (env : Environment) : t.context env = s.context env := by
  rw [like.frame]
  rfl

theorem Like.refusesProcesses (like : Like L s t) (env : Environment) :
    t.refusesProcesses env = s.refusesProcesses env := by
  rw [like.frame]
  rfl

/-! ## Signals and events -/

/-- What a terminal stop does does not depend on whether a child has ended. -/
theorem Like.toggleMode (like : Like L s t) : Like L s.toggleMode t.toggleMode := by
  obtain ⟨g, differs, rfl⟩ := like.exists_guise
  have flags := s.flags.toggle_with_childEnded g.childEnded
  have kept : s.flags.toggle.1.childEnded = s.flags.childEnded := childEnded_toggle s.flags
  have toggled : Like L { s with flags := s.flags.toggle.1 }
      { s.inGuise g with flags := (s.inGuise g).flags.toggle.1 } := by
    have same : (s.inGuise g).flags.toggle.1 = { s.flags.toggle.1 with
      childEnded := g.childEnded } := flags
    rw [same]
    refine ⟨rfl, { differs with childEnded := ?_ }⟩
    show L.childEnded s.flags.toggle.1.childEnded g.childEnded
    rw [kept]
    exact differs.childEnded
  cases waiting : s.flags.waiting with
  | true =>
    rw [toggleMode_of_waiting waiting, toggleMode_of_waiting (s := s.inGuise g) waiting]
    exact toggled
  | false =>
    rw [toggleMode_of_not_waiting waiting, toggleMode_of_not_waiting (s := s.inGuise g) waiting]
    exact toggled.sayAll _

/-- A signal to the shell does the same to both. -/
theorem Like.receive (like : Like L s t) (n : ShellSignal) :
    Like L (s.receive n) (t.receive n) := by
  have recorded := like.record (.received n.number)
  cases n with
  | interrupt => exact recorded
  | childEnded =>
    unfold Session.receive
    obtain ⟨g, differs, told⟩ := recorded.exists_guise
    rw [told]
    exact ⟨rfl, { differs with childEnded := L.childEnded_same true }⟩
  | terminalStop => exact recorded.toggleMode

/-- A child that changes does so in both, and it is told of in the same way. -/
theorem Like.changeChild (like : Like L s t) (pid : Pid) (change : Child → Child) :
    Like L (s.changeChild pid change) (t.changeChild pid change) := by
  have died : ∀ {s t : Session} state, Like L s t →
      Like L (s.recordDeath pid state) (t.recordDeath pid state) := by
    intro s t state like
    cases state with
    | dead how => exact like.record _
    | _ => exact like
  have changed : Like L
      { s with machine := { s.machine with children := s.machine.children.modify pid change } }
      { t with machine := { t.machine with children := s.machine.children.modify pid change } } := by
    obtain ⟨g, differs, rfl⟩ := like.exists_guise
    exact ⟨rfl, { differs with }⟩
  unfold Session.changeChild
  rw [like.children]
  split
  · exact like
  · dsimp only
    split
    · exact changed
    · exact (died _ changed).receive _

/-- One event, whoever it is about: the jobs are counted by what has been announced, which is the
same in both transcripts. -/
theorem Like.apply (like : Like L s t) (event : Event) : Like L (s.apply event) (t.apply event) := by
  have onJob : ∀ job (action action' : Pid → Session),
      (∀ pid, Like L (action pid) (action' pid)) →
      Like L (s.onJob job action) (t.onJob job action') := by
    intro job action action' each
    have same : t.machine.transcript.job? job = s.machine.transcript.job? job :=
      L.job? job like.differs.transcript
    unfold Session.onJob
    rw [same]
    split
    · exact each _
    · exact like
  cases event with
  | signal n => exact like.receive n
  | finish job code => exact onJob job _ _ fun pid => like.changeChild pid _
  | kill job n => exact onJob job _ _ fun pid => like.changeChild pid _
  | poke job n => exact onJob job _ _ fun pid => like.changeChild pid _
  | halt job => exact onJob job _ _ fun pid => like.changeChild pid _
  | exhaust on =>
    obtain ⟨g, differs, rfl⟩ := like.exists_guise
    exact ⟨rfl, { differs with }⟩

theorem Like.applyAll (like : Like L s t) (events : List Event) :
    Like L (s.applyAll events) (t.applyAll events) := by
  induction events generalizing s t with
  | nil => exact like
  | cons event events ih => exact ih (like.apply event)

/-! ## Children -/

/-- Two machines of sessions that are alike. -/
structure MachineLike (L : Likeness) (m n : Machine) : Prop where
  frame : n = { m with opened := n.opened, transcript := n.transcript }
  opened : L.opened m.opened n.opened
  transcript : L.transcript m.transcript n.transcript

variable {m n : Machine}

/-- A machine like another differs from it in its open files and its transcript only. -/
theorem MachineLike.exists_parts (like : MachineLike L m n) : ∃ opened transcript,
    L.opened m.opened opened ∧ L.transcript m.transcript transcript ∧
      n = { m with opened, transcript } :=
  ⟨n.opened, n.transcript, like.opened, like.transcript, like.frame⟩

theorem Like.machine (like : Like L s t) : MachineLike L s.machine t.machine := by
  obtain ⟨g, differs, rfl⟩ := like.exists_guise
  exact ⟨rfl, differs.opened, differs.transcript⟩

/-- Machines that are alike can be put into sessions that are. -/
theorem Like.withMachine (like : Like L s t) (machines : MachineLike L m n) :
    Like L { s with machine := m } { t with machine := n } := by
  obtain ⟨g, differs, rfl⟩ := like.exists_guise
  obtain ⟨opened, transcript, alike, told, rfl⟩ := machines.exists_parts
  exact ⟨rfl, { differs with opened := alike, transcript := told }⟩

/-- A child that is set up does not see how machines that are alike differ. -/
theorem unnoticed_machineLike (L : Likeness) : Machine.Unnoticed (MachineLike L) where
  tree like := by rw [like.frame]
  cwd like := by rw [like.frame]
  count like := L.count like.opened
  busy {m n} like := by
    have writer : n.isWriter = m.isWriter := by
      funext d place
      rw [Machine.isWriter_eq, Machine.isWriter_eq]
      exact congrArg (List.any d.entries) (funext fun e => L.writers e.2 place like.opened)
    have children : n.children = m.children := by rw [like.frame]
    funext d place
    unfold Machine.isBusy
    rw [writer, children]
  rewrite tree like := ⟨by rw [like.frame], like.opened, like.transcript⟩
  grow more like := ⟨by rw [like.frame], L.grow more like.opened, like.transcript⟩

/-- A write to an open file that is the same for both. -/
theorem MachineLike.write (like : MachineLike L m n) {id : OpenId} (shared : L.Shares id)
    (data : Bytes) : MachineLike L (m.write id data).1 (n.write id data).1 := by
  obtain ⟨opened, transcript, alike, told, rfl⟩ := like.exists_parts
  obtain ⟨same, moves⟩ := shared alike
  unfold Machine.write
  dsimp only
  rw [same]
  split
  · exact like
  · split
    · split
      · exact ⟨rfl, moves _, told⟩
      · exact ⟨rfl, alike, L.record _ told⟩
      · exact like
    · exact like

/-- A read from an open file that is the same for both gives the same bytes. -/
theorem MachineLike.read (like : MachineLike L m n) {id : OpenId} (shared : L.Shares id)
    (limit : Option Nat) : MachineLike L (m.read id limit).1 (n.read id limit).1 ∧
      (n.read id limit).2 = (m.read id limit).2 := by
  obtain ⟨opened, transcript, alike, told, rfl⟩ := like.exists_parts
  obtain ⟨same, moves⟩ := shared alike
  have readable : Machine.readable? { m with opened, transcript } = m.readable? := rfl
  unfold Machine.read
  dsimp only
  rw [same, readable]
  split
  · exact ⟨like, rfl⟩
  · split
    · split
      · exact ⟨like, rfl⟩
      · exact ⟨⟨rfl, moves _, told⟩, rfl⟩
    · exact ⟨like, rfl⟩

theorem MachineLike.writeTo (like : MachineLike L m n) {d : Descriptors} {k : Nat}
    (shared : ∀ id, d.get? k = some id → L.Shares id) (data : Bytes) :
    MachineLike L (m.writeTo d k data).1 (n.writeTo d k data).1 := by
  unfold Machine.writeTo
  split
  · rename_i id leads
    exact like.write (shared id leads) data
  · exact like

theorem MachineLike.readFrom (like : MachineLike L m n) {d : Descriptors} {k : Nat}
    (shared : ∀ id, d.get? k = some id → L.Shares id) (limit : Option Nat) :
    MachineLike L (m.readFrom d k limit).1 (n.readFrom d k limit).1 ∧
      (n.readFrom d k limit).2 = (m.readFrom d k limit).2 := by
  unfold Machine.readFrom
  split
  · rename_i id leads
    exact like.read (shared id leads) limit
  · exact ⟨like, rfl⟩

/-- A program whose descriptors lead to open files that are the same for both goes the same way. -/
theorem Like.run {d : Descriptors} (shared : ∀ k id, d.get? k = some id → L.Shares id)
    (own : Dispositions) (p : Program) (like : Like L s t) :
    LikeResult L (Launch.run d own p s) (Launch.run d own p t) := by
  induction p generalizing s t with
  | exit code => exact like.result _
  | hold => exact like.result _
  | write k data next ih => exact ih (like.withMachine (like.machine.writeTo (shared k) data))
  | readAll next ih =>
    obtain ⟨read, data⟩ := like.machine.readFrom (shared standardInput) none
    rw [Launch.run, Launch.run, data]
    exact ih _ (like.withMachine read)
  | signalSelf k next ih =>
    rw [Launch.run, Launch.run]
    split
    · exact ih like
    · exact like.result _
    · exact like.result _
  | signalShell k next ih => exact ih (like.receive k)

/-- The child of a command goes the same way if its program does. -/
theorem Like.runChild (like : Like L s t) (env : Environment) (c : Command) (argv : List String)
    (runs : let prepared := Launch.prepare c s.machine s.descriptors
      ∀ {s t : Session}, Like L s t → LikeResult L
        (Launch.run prepared.2.1 (Launch.dispositions env c)
          (Launch.program env c argv prepared.1 prepared.2.1 prepared.2.2) s)
        (Launch.run prepared.2.1 (Launch.dispositions env c)
          (Launch.program env c argv prepared.1 prepared.2.1 prepared.2.2) t)) :
    LikeResult L (Launch.runChild env c argv s) (Launch.runChild env c argv t) := by
  have unnoticed := unnoticed_machineLike L
  have prepared := Launch.prepare_alike unnoticed c s.descriptors like.machine
  have descriptors := like.descriptors
  unfold Launch.runChild
  rw [descriptors]
  dsimp only at runs
  generalize Launch.prepare c s.machine s.descriptors = a,
    Launch.prepare c t.machine s.descriptors = b at prepared runs
  obtain ⟨m, d, result⟩ := a
  obtain ⟨n, rest⟩ := b
  obtain ⟨made, same_rest⟩ := prepared
  dsimp only at made same_rest runs
  subst same_rest
  have program := Launch.program_alike unnoticed env c argv d result made
  have set_up := like.withMachine made
  rw [descriptors] at set_up
  obtain ⟨ran, state⟩ := runs set_up
  dsimp only
  rw [program]
  exact ⟨ran, congrArg (d, ·) state⟩

/-- A new child has the same process id and the same dispositions. -/
theorem Like.addChild (like : Like L s t) (own : Dispositions) (background : Bool) :
    Like L (s.addChild own background).1 (t.addChild own background).1 := by
  obtain ⟨g, differs, rfl⟩ := like.exists_guise
  exact ⟨rfl, { differs with transcript := L.record _ differs.transcript }⟩

/-! ## Commands -/

/-- The last status is the same after a wait that has come to the same result. -/
theorem Like.noteEnd (like : Like L s t) (result : Except Errno Termination) :
    LikeResult L (s.noteEnd result) (t.noteEnd result) := by
  have noted : ∀ {s t : Session} how, Like L s t →
      Like L { s with lastStatus := how } { t with lastStatus := how } := by
    intro s t how like
    obtain ⟨g, differs, rfl⟩ := like.exists_guise
    exact ⟨rfl, { differs with }⟩
  cases result with
  | error e => exact like.result _
  | ok how =>
    cases how with
    | exited code => exact (noted _ like).result _
    | signaled n => exact (noted _ (like.say (.interrupted (.signaled n)))).result _

theorem Like.awaitForeground (like : Like L s t) (pid : Pid) :
    LikeResult L (s.awaitForeground pid) (t.awaitForeground pid) := by
  rw [awaitForeground_eq, awaitForeground_eq, like.stateOf]
  split
  · exact (((like.collect pid).untrack pid).setWaiting false).noteEnd _
  · exact like.result _

/-- None of the built-in commands looks at the parts that may differ. -/
theorem Like.builtin (like : Like L s t) (b : Builtin) (env : Environment) (args : List String) :
    LikeResult L (b.run env args s) (b.run env args t) := by
  have entered : ∀ path failure, LikeResult L (Builtin.enterDirectory s path failure)
      (Builtin.enterDirectory t path failure) := by
    intro path failure
    obtain ⟨g, differs, rfl⟩ := like.exists_guise
    have tree : (s.inGuise g).machine.tree = s.machine.tree := rfl
    have cwd : (s.inGuise g).machine.cwd = s.machine.cwd := rfl
    unfold Builtin.enterDirectory
    rw [tree, cwd]
    split
    · exact ⟨⟨rfl, { differs with }⟩, rfl⟩
    · exact like.result _
  cases b with
  | changeDirectory =>
    show LikeResult L (Builtin.runChangeDirectory env args s) (Builtin.runChangeDirectory env args t)
    unfold Builtin.runChangeDirectory
    split
    · exact entered _ _
    · exact entered _ _
    · exact like.result _
  | status =>
    have status : t.lastStatus = s.lastStatus := by
      rw [like.frame]
      rfl
    show LikeResult L (s.say (.status s.lastStatus), Outcome.ok)
      (t.say (.status t.lastStatus), Outcome.ok)
    rw [status]
    exact (like.say _).result _
  | exit => exact like.result _

/-! ## Lines -/

/-- The same comes of two lists of events in sessions that are alike. -/
def Matches (L : Likeness) (es fs : List Event) : Prop :=
  ∀ {s t : Session}, Like L s t → Like L (s.applyAll es) (t.applyAll fs)

/-- The same events make the same of sessions that are alike. -/
theorem matches_refl (L : Likeness) (events : List Event) : Matches L events events :=
  fun like => like.applyAll events

/-- Two reads of the same line, with events of which the same comes. -/
structure ReadsLike (L : Likeness) (r q : Reading) : Prop where
  waits : List.Forall₂ (Matches L) r.waits q.waits
  held : q.held = r.held
  piece : q.piece = r.piece
  meanwhile : Matches L r.meanwhile q.meanwhile

theorem ReadsLike.refl (L : Likeness) (r : Reading) : ReadsLike L r r :=
  ⟨List.forall₂_same.2 fun _ _ => matches_refl L _, rfl, rfl, matches_refl L _⟩

theorem Like.prompted (like : Like L s t) {waits waits' : List (List Event)}
    (waited : List.Forall₂ (Matches L) waits waits') :
    Like L (s.prompted waits) (t.prompted waits') := by
  have awaited : ∀ {s t : Session}, Like L s t →
      Like L (waits.foldl await s) (waits'.foldl await t) := by
    induction waited with
    | nil => exact id
    | cons events _ ih => exact fun like => ih (events (like.record .awaiting))
  have shown : Like L s.showNotices t.showNotices := by
    obtain ⟨g, differs, rfl⟩ := like.exists_guise
    have taken : Like L { s with flags := s.flags.takeNotices.1 }
        { s.inGuise g with flags := (s.inGuise g).flags.takeNotices.1 } :=
      ⟨rfl, { differs with }⟩
    rw [showNotices_eq, showNotices_eq]
    exact taken.sayAll _
  have prompt : t.options.prompt = s.options.prompt := by
    rw [like.frame]
    rfl
  unfold Session.prompted
  rw [prompt]
  exact awaited (shown.say _)

variable {es fs : List Event}

/-- What comes of a command follows from what comes of its child. -/
theorem Like.carryOut_of_bear (like : Like L s t) {c : Command} {argv : List String}
    (born : LikeResult L (bear env c argv s) (bear env c argv t)) (meanwhile : Matches L es fs) :
    LikeResult L (s.carryOut env c argv es) (t.carryOut env c argv fs) := by
  obtain ⟨ran, rest⟩ := born
  cases background : c.background with
  | true =>
    rw [carryOut_of_background background, carryOut_of_background background, rest, like.newPid]
    exact (((ran.changeChild s.newPid _).track s.newPid).say _).result _
  | false =>
    have attended : Like L (s.attend env c argv es) (t.attend env c argv fs) := by
      unfold attend
      rw [rest, like.newPid]
      exact (meanwhile (ran.track s.newPid)).changeChild s.newPid _
    rw [carryOut_of_foreground background, carryOut_of_foreground background, like.newPid]
    exact attended.awaitForeground s.newPid

section Shared

variable (shared : ∀ id, L.Shares id)

include shared

/-- A child is made, announced and set up in the same way, and its program runs. -/
theorem Like.bear (like : Like L s t) (env : Environment) (c : Command) (argv : List String) :
    LikeResult L (bear env c argv s) (bear env c argv t) :=
  (like.addChild _ _).runChild env c argv fun like => like.run (fun _ id _ => shared id) _ _

/-- A command goes the same way, with events meanwhile of which the same comes. -/
theorem Like.carryOut (like : Like L s t) (env : Environment) (c : Command) (argv : List String)
    (meanwhile : Matches L es fs) :
    LikeResult L (s.carryOut env c argv es) (t.carryOut env c argv fs) :=
  like.carryOut_of_bear (like.bear shared env c argv) meanwhile

theorem Like.spawn (like : Like L s t) (env : Environment) (c : Command)
    (meanwhile : Matches L es fs) : LikeResult L (s.spawn env c es) (t.spawn env c fs) := by
  have begun : Like L (if c.background then s else s.setWaiting true)
      (if c.background then t else t.setWaiting true) := by
    split
    · exact like
    · exact like.setWaiting true
  rw [spawn_eq, spawn_eq]
  cases c.programArgv with
  | error e => exact like.result _
  | ok argv =>
    dsimp only
    generalize (if c.background then s else s.setWaiting true) = a,
      (if c.background then t else t.setWaiting true) = b at begun
    rw [begun.refusesProcesses]
    split
    · exact (begun.setWaiting false).result _
    · exact begun.carryOut shared env c argv meanwhile

/-- A line that has been read goes the same way, whether it is a comment, an error or a command. -/
theorem Like.handlePiece (like : Like L s t) (env : Environment) (piece : Bytes)
    (meanwhile : Matches L es fs) :
    LikeResult L (s.handlePiece env piece es) (t.handlePiece env piece fs) := by
  simp only [handlePiece_eq, handleLine_eq, dispatch_eq]
  rw [like.accept, like.context]
  split
  · exact like.result _
  · split
    · exact like.result _
    · split
      · exact like.result _
      · split
        · exact like.builtin _ env _
        · exact like.spawn shared env _ meanwhile

/-- A whole step: notices, the prompt, the wait for input, and what the line asks for. -/
theorem Like.step (like : Like L s t) (env : Environment) {r q : Reading}
    (read : ReadsLike L r q) : LikeResult L (s.step env r) (t.step env q) := by
  have prompted := like.prompted read.waits
  rw [step_eq, step_eq, read.piece]
  split
  · exact prompted.result _
  · exact (prompted.record (.taken _)).handlePiece shared env _ read.meanwhile

theorem Like.readInput (like : Like L s t) (limit : Option Nat) :
    LikeResult L (s.readInput limit) (t.readInput limit) := by
  obtain ⟨taken, data⟩ := like.machine.readFrom (d := s.descriptors) (k := standardInput)
    (fun id _ => shared id) limit
  have read := like.withMachine taken
  rw [like.descriptors] at read
  unfold Session.readInput
  rw [like.descriptors]
  exact ⟨read, congrArg (Option.getD · []) data⟩

/-- The bytes that a read takes from the shared input are the same. -/
theorem Like.supply (like : Like L s t) {r q : Reading} (read : ReadsLike L r q) :
    LikeResult L (s.supply r) (t.supply q) := by
  have length := read.waits.length_eq
  have empty : q.waits.isEmpty = r.waits.isEmpty := by
    rw [Bool.eq_iff_iff, List.isEmpty_iff_length_eq_zero, List.isEmpty_iff_length_eq_zero, length]
  obtain ⟨taken, data⟩ := like.readInput shared (some (r.waits.length * Input.blockSize))
  unfold Session.supply
  rw [empty, ← length]
  split
  · exact like.result _
  · exact ⟨taken, congrArg (!List.isEmpty ·) data⟩

end Shared

/-! ## The reaper -/

/-- A dead child is collected and reported in the same words. -/
theorem Like.reapChild (like : Like L s t) (pid : Pid) (how : Termination) :
    LikeResult L (s.reapChild pid how) (t.reapChild pid how) := by
  rw [Session.reapChild_eq, Session.reapChild_eq]
  split
  · exact (like.collect pid).result _
  · exact (((like.collect pid).say _).untrack pid).result _

/-- The drain collects and reports the same children. -/
theorem Like.drain {s t : Session} (like : Like L s t) (between : List (List Event)) :
    LikeResult L (s.drain between) (t.drain between) := by
  have now := like.applyAll (between.head?.getD [])
  rw [drain_eq, drain_eq, now.children]
  cases ready : (s.applyAll (between.head?.getD [])).machine.children.ready? with
  | none => exact now.result _
  | some found =>
    obtain ⟨pid, how⟩ := found
    obtain ⟨turn, outcome⟩ := now.reapChild pid how
    have shrinks : ((s.applyAll (between.head?.getD [])).reapChild pid how).1.machine.children.length
        < s.machine.children.length := by
      rw [← s.length_children_applyAll (between.head?.getD [])]
      exact length_children_reapChildOn_lt .sound ready
    dsimp only
    rw [outcome]
    split
    · exact turn.drain between.tail
    · exact ⟨turn, outcome⟩
termination_by s.machine.children.length

/-- A pass of the reaper with its error reported, whether or not there is a reason for it. -/
def pass (s : Session) : Session :=
  match s.calm.reap with
  | (s, .error e) => s.report e
  | (s, _) => s

/-- A pass for which there is no reason finds nothing to do. -/
theorem afterLine_eq_pass (distinct : s.pids.Nodup)
    (told : ∀ pid how, s.stateOf pid = some (.dead how) → s.flags.childEnded = true) :
    s.afterLine = s.pass := by
  cases ended : s.flags.childEnded with
  | true => exact afterLine_eq ended
  | false =>
    have calm : s.calm = s := by
      unfold Session.calm SignalFlags.takeChildEnded
      rw [← ended]
    have none_ready : s.machine.children.ready? = none := by
      refine List.head?_eq_none_iff.2 (List.eq_nil_iff_forall_not_mem.2 fun d member => ?_)
      have flag := told d.1 d.2 ((mem_dead_iff distinct).1 member)
      rw [ended] at flag
      cases flag
    have idle : s.reap = (s, .ok) := by
      have reaped := reaped_reap s
      generalize s.reap = result at reaped
      cases reaped with
      | idle _ => rfl
      | lost ready _ => cases none_ready.symm.trans ready
      | next ready _ _ => cases none_ready.symm.trans ready
    rw [afterLine_of_calm ended, pass, calm, idle]

/-- A pass of the reaper goes the same way in both, if it is made in both. -/
theorem Like.pass (like : Like L s t) : Like L s.pass t.pass := by
  have calm : Like L s.calm t.calm := by
    obtain ⟨g, differs, rfl⟩ := like.exists_guise
    exact ⟨rfl, { differs with childEnded := L.childEnded_same false }⟩
  have reaped := calm.drain []
  unfold Session.pass reap
  generalize s.calm.drain [] = a, t.calm.drain [] = b at reaped
  obtain ⟨a, outcome⟩ := a
  obtain ⟨b, outcome'⟩ := b
  obtain ⟨like', same⟩ := reaped
  dsimp only at like' same
  subst same
  cases outcome' with
  | error e => exact like'.report e
  | _ => exact like'

/-! ## Leaving -/

/-- A job is asked to end, and waited for, in the same way. -/
theorem Like.endJob (like : Like L s t) (pid : Pid) :
    LikeResult L (s.endJob pid) (t.endJob pid) := by
  have sent := (like.record (.sent pid Signal.terminate)).changeChild pid
    (Child.receive Signal.terminate)
  unfold Session.endJob signalChild
  rw [like.children]
  split
  · exact like.result _
  · dsimp only
    rw [sent.children]
    split
    · exact (sent.collect pid).result _
    · exact sent.result _

theorem Like.endJobs (like : Like L s t) (jobs : List Pid) :
    LikeResult L (endJobs jobs s) (endJobs jobs t) := by
  induction jobs generalizing s t with
  | nil => exact like.result _
  | cons pid jobs ih =>
    obtain ⟨ended, flag⟩ := (like.untrack pid).endJob pid
    rw [endJobs_cons, endJobs_cons, flag]
    split
    · exact ih ended
    · exact ended.result _

end Session

end JobShell
