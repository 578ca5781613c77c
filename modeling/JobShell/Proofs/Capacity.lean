import JobShell.Proofs.Course

/-!
# What the job table is good for

Nothing that the shell does before it leaves looks into the job table: it only puts jobs in and takes
them out. So two sessions that differ in nothing but the table and its capacity (`Session.Alike`) go
through the same rounds, and what they differ in shows when the jobs in the table are ended.

* `alike_iff`: such sessions are alike as to everything else.
* `Alike.step`, `Alike.afterLine`: a line, and a pass of the reaper.
* `Alike.course`: all prompts, and the end of the loop.
* `capacity_is_unseen`: the runs of two shells that are started with different capacities.
-/

namespace JobShell

/-- Sessions may differ in their job tables and the capacity of these, and in nothing else. -/
def Likeness.anyTable : Likeness where
  jobs _ _ := True
  maxJobs _ _ := True
  childEnded := Eq
  transcript := Eq
  opened := Eq
  track _ _ := trivial
  untrack _ _ := trivial
  childEnded_same _ := rfl
  record := same.record
  job? := same.job?
  count := same.count
  grow := same.grow
  writers := same.writers

/-- The size of the job table makes no difference to any file. -/
theorem Likeness.anyTable_shares (id : OpenId) : anyTable.Shares id := by
  rintro fs gs rfl
  exact ⟨rfl, fun _ => rfl⟩

namespace Session

variable {env : Environment} {s t : Session}

/-- The session with another job table, of another capacity. -/
def refit (s : Session) (jobs : JobTable) (maxJobs : Nat) : Session :=
  { s with jobs, options := { s.options with maxJobs } }

/-- The session `t` is `s` but for the job table and its capacity. -/
structure Alike (s t : Session) : Prop where
  options : t.options = { s.options with maxJobs := t.options.maxJobs }
  lastStatus : t.lastStatus = s.lastStatus
  flags : t.flags = s.flags
  descriptors : t.descriptors = s.descriptors
  machine : t.machine = s.machine

/-- A session is like the one with another job table. -/
theorem alike_refit (s : Session) (jobs : JobTable) (n : Nat) : Alike s (s.refit jobs n) :=
  ⟨rfl, rfl, rfl, rfl, rfl⟩

theorem Alike.eq_refit (alike : Alike s t) : t = s.refit t.jobs t.options.maxJobs := by
  obtain ⟨options, lastStatus, flags, descriptors, machine⟩ := alike
  cases t
  dsimp only at options lastStatus flags descriptors machine
  subst lastStatus flags descriptors machine
  rw [refit, ← options]

/-- To be the same but for the job table is a likeness. -/
theorem alike_iff : Alike s t ↔ Like .anyTable s t := by
  constructor
  · intro alike
    rw [alike.eq_refit]
    exact ⟨rfl, trivial, trivial, rfl, rfl, rfl⟩
  · intro like
    obtain ⟨⟨jobs, maxJobs, ended, transcript, opened⟩, ⟨-, -, same, told, kept⟩, rfl⟩ :=
      like.exists_guise
    dsimp only at same told kept
    subst same told kept
    exact alike_refit s jobs maxJobs

/-! ## A line, and a pass of the reaper -/

/-- The same has come of two sessions that are alike. -/
def SameResult (a b : Session × Outcome) : Prop :=
  Alike a.1 b.1 ∧ b.2 = a.2

/-- A step comes to the same whatever fits into the job table. -/
theorem Alike.step (alike : Alike s t) (env : Environment) (r : Reading) :
    SameResult (s.step env r) (t.step env r) := by
  obtain ⟨like, outcome⟩ := (alike_iff.1 alike).step Likeness.anyTable_shares env (.refl _ r)
  exact ⟨alike_iff.2 like, outcome⟩

/-- The reaper looks at the children and not at the table. -/
theorem Alike.afterLine (alike : Alike s t) : Alike s.afterLine t.afterLine := by
  have flags := alike.flags
  cases ended : s.flags.childEnded with
  | false =>
    rw [afterLine_of_calm ended, afterLine_of_calm (flags ▸ ended)]
    exact alike
  | true =>
    have pass := alike_iff.2 (alike_iff.1 alike).pass
    rw [afterLine_eq ended, afterLine_eq (flags ▸ ended)]
    exact pass

theorem Alike.report (alike : Alike s t) (e : ShellError) : Alike (s.report e) (t.report e) :=
  alike_iff.2 ((alike_iff.1 alike).report e)

/-! ## Courses -/

/-- Two courses that differ in nothing but job tables and their capacity. -/
structure Course.Alike (c d : Course) : Prop where
  prompts : List.Forall₂ Session.Alike c.prompts d.prompts
  last : Session.Alike c.last d.last
  halt : d.halt = c.halt

theorem Course.alike_iff {c d : Course} : Course.Alike c d ↔ Course.Like .anyTable c d := by
  have same : ∀ s t, Session.Alike s t ↔ Session.Like .anyTable s t := fun _ _ =>
    Session.alike_iff
  constructor
  · rintro ⟨prompts, last, halt⟩
    exact ⟨prompts.imp fun s t => (same s t).1, (same _ _).1 last, halt⟩
  · rintro ⟨prompts, last, halt⟩
    exact ⟨prompts.imp fun s t => (same s t).2, (same _ _).2 last, halt⟩

theorem Alike.follow (alike : Alike s t) (env : Environment) (r : Reading)
    {next : Session → Course} (same : ∀ s t, Alike s t → Course.Alike (next s) (next t)) :
    Course.Alike (s.follow env r next) (t.follow env r next) := by
  have stepped := (alike.step env r).1
  refine Course.alike_iff.2 ((alike_iff.1 alike).follow Likeness.anyTable_shares (.refl _ r)
    (fun _ => ⟨alike_iff.1 stepped.afterLine, fun e => alike_iff.1 (stepped.report e).afterLine⟩)
    fun _ like => Course.alike_iff.1 (same _ _ (alike_iff.2 like)))

/-- A whole run goes through the same prompts, by induction on its lines. -/
theorem Alike.course (alike : Alike s t) (env : Environment) (rs : List Reading) :
    Course.Alike (s.course env rs) (t.course env rs) := by
  induction rs generalizing s t with
  | nil => exact ⟨.nil, alike, rfl⟩
  | cons r rs ih => exact alike.follow env r fun s t alike => ih alike

/-- A whole run whose children share the shell's input. -/
theorem Alike.courseShared (alike : Alike s t) (env : Environment) (rs : List Reading) :
    Course.Alike (s.courseShared env rs) (t.courseShared env rs) := by
  induction rs generalizing s t with
  | nil => exact ⟨.nil, alike, rfl⟩
  | cons r rs ih =>
    obtain ⟨like, there⟩ := (alike_iff.1 alike).supply Likeness.anyTable_shares (.refl _ r)
    have alike' := alike_iff.2 like
    rw [Session.courseShared, Session.courseShared]
    generalize s.supply r = a, t.supply r = b at alike' there
    obtain ⟨m, goes_on⟩ := a
    obtain ⟨n, goes_on'⟩ := b
    dsimp only at alike' there
    subst there
    cases goes_on' with
    | false => exact alike'.course env _
    | true => exact alike'.follow env r fun s t alike => ih alike

/-- If both return, they return the same code. -/
theorem Course.Alike.code_eq {c d : Course} (alike : Course.Alike c d) {code code' : Int}
    (returned : c.close.2 = .returned code) (returned' : d.close.2 = .returned code') :
    code = code' := by
  unfold Course.close at returned returned'
  rw [alike.halt] at returned'
  cases halt : c.halt with
  | stuck pid =>
    rw [halt] at returned
    cases returned
  | left k =>
    rw [halt] at returned returned'
    exact (eq_of_leave_returned returned).symm.trans (eq_of_leave_returned returned')

/-- Two shells that are started with different capacities of the job table and get the same input,
with the same happening meanwhile, differ in nothing but the table until the loop ends: not in what
appears on the streams, in their announcements and reports, in the last status, the mode and the
working directory at any prompt, nor in files and children. They return the same code if both return.
What is left is to end the jobs in the table. -/
theorem capacity_is_unseen (env : Environment) (options : Options) (maxJobs : Nat) (tree : FileTree)
    (cwd : Place) (nextPid : Pid) (input : Bytes) (arrivals : List Arrival) :
    let s := initial options tree cwd nextPid input
    let t := initial { options with maxJobs } tree cwd nextPid input
    let rs := Input.readings arrivals
    let shared := Input.readings (Input.blocks (s.readInput none).2)
    (Course.Alike (s.course env rs) (t.course env rs) ∧
      s.run env arrivals = (s.course env rs).close ∧
      t.run env arrivals = (t.course env rs).close ∧
      ∀ code code', (s.run env arrivals).2 = .returned code →
        (t.run env arrivals).2 = .returned code' → code = code') ∧
    Course.Alike (s.courseShared env shared) (t.courseShared env shared) ∧
      s.runShared env = (s.courseShared env shared).close ∧
      t.runShared env = (t.courseShared env shared).close ∧
      ∀ code code', (s.runShared env).2 = .returned code →
        (t.runShared env).2 = .returned code' → code = code' := by
  intro s t rs shared
  have alike : Alike s t := alike_refit s (.empty maxJobs) maxJobs
  have courses := alike.course env rs
  have courses' := alike.courseShared env shared
  have run : ∀ u : Session, u.run env arrivals = (u.course env rs).close :=
    listen_eq_close env rs
  have runShared : s.runShared env = (s.courseShared env shared).close :=
    listenShared_eq_close env shared s
  have runShared' : t.runShared env = (t.courseShared env shared).close :=
    listenShared_eq_close env shared t
  refine ⟨⟨courses, run s, run t, fun code code' returned returned' => ?_⟩, courses', runShared,
    runShared', fun code code' returned returned' => ?_⟩
  · rw [run] at returned returned'
    exact courses.code_eq returned returned'
  · rw [runShared] at returned
    rw [runShared'] at returned'
    exact courses'.code_eq returned returned'

/-- A job that finds no slot goes on when the shell has left; in a shell with a slot for it, it is
ended. Nothing else tells the two apart. -/
theorem capacity_is_unseen_until_exit :
    let rs := [{ bytes := Text.encode "hold &\nexit 7\n" }]
    let s := memoryShell 0
    let t := memoryShell 1
    Course.Alike (s.course memoryEnvironment (Input.readings rs))
        (t.course memoryEnvironment (Input.readings rs)) ∧
      (s.run memoryEnvironment rs).2 = .returned 7 ∧ (t.run memoryEnvironment rs).2 = .returned 7 ∧
      (s.run memoryEnvironment rs).1.stateOf 1001 = some .running ∧
      (t.run memoryEnvironment rs).1.stateOf 1001 = none := by
  intro rs s t
  obtain ⟨⟨courses, -, -, -⟩, -⟩ := capacity_is_unseen memoryEnvironment { maxJobs := 0 } 1
    FileTree.system homePlace (ownPid + 1) [] rs
  exact ⟨courses, by decide +kernel, by decide +kernel, by decide +kernel, by decide +kernel⟩

end Session

end JobShell
