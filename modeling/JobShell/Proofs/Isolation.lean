import JobShell.Proofs.Likeness
import JobShell.Proofs.NullDevice
import JobShell.Proofs.Refusals

/-!
# Background jobs and the shell's streams

A child inherits the shell's standard streams, and a background child leaves its input and its
output before it becomes its program: each leads to the redirection that is asked for or to the null
device. Should that fail, all that the child does is to say so, on its output.

* `Like.bear_apart`: a background child goes the same way whatever the shell's input is, and leaves
  it alone.
* `writtenTo_bear`: a background child shows nothing on the shell's output but that its own output
  cannot be opened.
* `background_stays_apart`: both together, up to the next line.
-/

namespace JobShell

/-! ## What is written to a stream -/

/-- What children have written to a stream, piece by piece. -/
def Transcript.writtenTo (stream : Stream) (t : Transcript) : List Bytes :=
  t.filterMap fun
    | .written other data => if other = stream then some data else none
    | _ => none

variable {stream : Stream}

theorem Transcript.writtenTo_append (t u : Transcript) :
    (t ++ u).writtenTo stream = t.writtenTo stream ++ u.writtenTo stream :=
  List.filterMap_append

/-- Only what children write counts as written to a stream. -/
theorem Transcript.writtenTo_output (t : Transcript) :
    t.output.writtenTo stream = t.writtenTo stream := by
  unfold output writtenTo
  rw [List.filterMap_filter]
  refine List.filterMap_congr fun e _ => ?_
  cases e <;> rfl

theorem Transcript.writtenTo_congr {t u : Transcript} (same : u.output = t.output) :
    u.writtenTo stream = t.writtenTo stream := by
  rw [← u.writtenTo_output, same, t.writtenTo_output]

namespace Machine

variable {m m' : Machine} {d : Descriptors} {id : OpenId}

/-- No descriptor leads to a stream. -/
def Avoids (m : Machine) (stream : Stream) (d : Descriptors) : Prop :=
  ∀ n id, d.get? n = some id →
    ∃ file, m.opened[id]? = some file ∧ file.target ≠ .stream stream

/-- What descriptors lead past they lead past for ever, as open files stand for the same. -/
theorem Avoids.keeps (avoids : m.Avoids stream d) (keeps : m.Keeps m') : m'.Avoids stream d := by
  intro n id leads
  obtain ⟨file, there, apart⟩ := avoids n id leads
  obtain ⟨offset, still⟩ := keeps id file there
  exact ⟨_, still, apart⟩

/-- A write past a stream does not show on it. -/
theorem Avoids.writtenTo_writeTo (avoids : m.Avoids stream d) (n : Nat) (data : Bytes) :
    (m.writeTo d n data).1.transcript.writtenTo stream = m.transcript.writtenTo stream := by
  unfold writeTo
  split
  · rename_i id leads
    obtain ⟨file, there, apart⟩ := avoids n id leads
    rw [write, there]
    dsimp only
    split
    · split
      · rfl
      · rename_i other target
        have elsewhere : other ≠ stream := fun same => apart (target.trans (congrArg _ same))
        show Transcript.writtenTo stream (m.transcript ++ [.written other data]) = _
        rw [Transcript.writtenTo_append, Transcript.writtenTo, Transcript.writtenTo]
        simp [elsewhere]
      · rfl
    · rfl
  · rfl

end Machine

namespace Session

variable {s t : Session}

/-- Where no file is touched, nothing is written to a stream. -/
theorem Untouched.writtenTo (untouched : Untouched s t) (stream : Stream) :
    t.machine.transcript.writtenTo stream = s.machine.transcript.writtenTo stream :=
  Transcript.writtenTo_congr untouched.output

theorem Shows.writtenTo {text : Bytes} (shows : Shows text s t) :
    t.machine.transcript.writtenTo .out = s.machine.transcript.writtenTo .out ++ [text] := by
  rw [← Transcript.writtenTo_output, shows, Transcript.writtenTo_append,
    Transcript.writtenTo_output]
  rfl

/-- A program that has no descriptor for a stream writes nothing to it. -/
theorem writtenTo_run {d : Descriptors} (own : Dispositions) (p : Program)
    (avoids : s.machine.Avoids stream d) :
    (Launch.run d own p s).1.machine.transcript.writtenTo stream =
      s.machine.transcript.writtenTo stream := by
  induction p generalizing s with
  | exit code => rfl
  | hold => rfl
  | write n data next ih =>
    have keeps := Machine.acrossUse_keeps.writeTo s.machine d n data
    exact (ih (avoids.keeps keeps)).trans (avoids.writtenTo_writeTo n data)
  | readAll next ih =>
    have keeps := Machine.acrossUse_keeps.readFrom s.machine d standardInput none
    have unsaid := Machine.transcript_readFrom s.machine d standardInput none
    exact (ih _ (avoids.keeps keeps)).trans (congrArg _ unsaid)
  | signalSelf n next ih =>
    rw [Launch.run]
    split
    · exact ih avoids
    · rfl
    · rfl
  | signalShell n next ih =>
    have handled := untouched_receive s n
    have still := handled.keeps.machine
    exact (ih (avoids.keeps still)).trans (handled.writtenTo stream)

end Session

/-! ## Sessions with another input -/

/-- Two sessions that differ at most in the first of their open files, which cannot be written to:
it is `own` in the one and `other` in the other. -/
def Likeness.input (own other : OpenFile) (read_only : own.writable = false)
    (read_only' : other.writable = false) : Likeness where
  jobs := Eq
  maxJobs := Eq
  childEnded := Eq
  transcript := Eq
  opened fs gs := ∃ rest, fs = own :: rest ∧ gs = other :: rest
  track := same.track
  untrack := same.untrack
  childEnded_same _ := rfl
  record := same.record
  job? := same.job?
  count := by
    rintro fs gs ⟨rest, rfl, rfl⟩
    rfl
  grow := by
    rintro fs gs more ⟨rest, rfl, rfl⟩
    exact ⟨rest ++ more, rfl, rfl⟩
  writers := by
    rintro fs gs id place ⟨rest, rfl, rfl⟩
    cases id with
    | zero => simp [OpenFile.writesTo, read_only, read_only']
    | succ id => rfl

variable {own other : OpenFile} {read_only : own.writable = false}
variable {read_only' : other.writable = false}

/-- Only the input is not the same for both. -/
theorem Likeness.input_shares {id : OpenId} (apart : id ≠ 0) :
    (Likeness.input own other read_only read_only').Shares id := by
  rintro fs gs ⟨rest, rfl, rfl⟩
  cases id with
  | zero => exact absurd rfl apart
  | succ id => exact ⟨rfl, fun offset => ⟨_, rfl, rfl⟩⟩

namespace Session

variable {s t : Session}

/-- The open file that is the standard input of the shell, and of the children that keep it. -/
def input? (s : Session) : Option OpenFile :=
  (s.descriptors.get? standardInput).bind fun id => s.machine.opened[id]?

/-- The session with another open file as that input. -/
def withInput (file : OpenFile) (s : Session) : Session :=
  match s.descriptors.get? standardInput with
  | some id => { s with machine := { s.machine with opened := s.machine.opened.set id file } }
  | none => s

theorem input?_eq (plain : s.descriptors = .standard) : s.input? = s.machine.opened[0]? := by
  rw [input?, plain]
  rfl

theorem withInput_eq (file : OpenFile) (plain : s.descriptors = .standard) :
    s.withInput file = { s with machine := { s.machine with
      opened := s.machine.opened.set 0 file } } := by
  rw [withInput, plain]
  rfl

/-- A session is like the one with another input. -/
theorem like_withInput (fixed : own.writable = false) (fixed' : other.writable = false)
    (plain : s.descriptors = .standard) (there : s.machine.opened[0]? = some own) :
    Like (.input own other fixed fixed') s (s.withInput other) := by
  obtain ⟨rest, opened⟩ : ∃ rest, s.machine.opened = own :: rest := by
    cases opened : s.machine.opened with
    | nil =>
      rw [opened] at there
      cases there
    | cons first rest =>
      rw [opened] at there
      cases there
      exact ⟨rest, rfl⟩
  rw [withInput_eq other plain]
  refine ⟨rfl, ⟨rfl, rfl, rfl, rfl, rest, opened, ?_⟩⟩
  show s.machine.opened.set 0 other = _
  rw [opened]
  rfl

/-- What is like it in this way is that session. -/
theorem Like.eq_withInput (plain : s.descriptors = .standard)
    (like : Like (.input own other read_only read_only') s t) :
    s.machine.opened[0]? = some own ∧ t = s.withInput other := by
  obtain ⟨⟨jobs, maxJobs, childEnded, transcript, opened⟩, differs, rfl⟩ := like.exists_guise
  obtain ⟨rest, own_first, other_first⟩ := differs.opened
  have here : s.machine.opened = own :: rest := own_first
  refine ⟨by rw [here]; rfl, ?_⟩
  cases differs.jobs
  cases differs.maxJobs
  cases differs.childEnded
  cases differs.transcript
  dsimp only at other_first
  rw [withInput_eq other plain, here, List.set_cons_zero, inGuise, other_first]

end Session

/-! ## The child of a background command -/

namespace Launch

variable {c : Command} {m : Machine} {asked : Option String}

/-- A background child has both redirections, to the null device if it asks for none. -/
theorem redirection_background (asked : Option String) :
    ∃ path, redirection asked true = some path := by
  cases asked with
  | some path => exact ⟨path, rfl⟩
  | none => exact ⟨nullDevicePath, rfl⟩

/-- The child of a background command that is set up has kept nothing but the error stream. -/
theorem prepare_background (background : c.background = true)
    (ok : (prepare c m .standard).2.2 = .ok ()) :
    ∃ place file, outputPlace? c m = some place ∧ (∀ stream, file.target ≠ .stream stream) ∧
      (prepare c m .standard).1 =
        { m.withOutlet place with opened := m.opened ++ [m.outlet place, file] } ∧
      ∀ n, (prepare c m .standard).2.1.get? n =
        if n = standardInput then some (m.opened.length + 1)
        else if n = standardOutput then some m.opened.length
        else if n ≤ standardError then some n else none := by
  obtain ⟨out, asked⟩ := redirection_background c.output
  obtain ⟨path, asked'⟩ := redirection_background c.input
  rw [← background] at asked asked'
  obtain ⟨place, file, leads, named, machine, descriptors⟩ :=
    prepare_ok asked asked' Descriptors.hasStandard_standard ok
  exact ⟨place, file, leads, named, machine, fun n => by
    rw [descriptors, Descriptors.get?_standard]⟩

end Launch

namespace Session

variable {env : Environment} {s t : Session} {c : Command} {argv : List String}

/-- What is made of a background child does not depend on what the shell's input is. -/
theorem Like.run_background {m : Machine} (some_open : m.opened.length ≠ 0)
    (background : c.background = true) (like : Like (.input own other read_only read_only') s t) :
    let prepared := Launch.prepare c m .standard
    let program := Launch.program env c argv prepared.1 prepared.2.1 prepared.2.2
    LikeResult (.input own other read_only read_only')
      (Launch.run prepared.2.1 (Launch.dispositions env c) program s)
      (Launch.run prepared.2.1 (Launch.dispositions env c) program t) := by
  intro prepared program
  cases set_up : prepared.2.2 with
  | error e =>
    -- The child only complains, and its output is not the shell's input.
    have output := Launch.prepare_output c m Descriptors.hasStandard_standard
    have led : ∀ id, prepared.2.1.get? standardOutput = some id → id ≠ 0 := by
      intro id leads
      split at output <;> rw [output.1] at leads <;> cases leads
      · decide
      · exact some_open
    have complains : program = Launch.failing e := by
      show Launch.program env c argv prepared.1 prepared.2.1 prepared.2.2 = _
      rw [set_up]
      rfl
    have wrote := like.machine.writeTo (fun id leads => Likeness.input_shares (led id leads))
      (Launch.complaint e)
    rw [complains]
    exact (like.withMachine wrote).result _
  | ok _ =>
    obtain ⟨place, file, -, -, -, descriptors⟩ := Launch.prepare_background background set_up
    refine like.run (fun n id leads => Likeness.input_shares ?_) _ _
    have there := (descriptors n).symm.trans leads
    split at there
    · cases there
      exact Nat.succ_ne_zero _
    · split at there
      · cases there
        exact some_open
      · split at there <;> cases there
        assumption

/-- A background child goes the same way whatever the shell's input is, and leaves it alone. -/
theorem Like.bear_apart (like : Like (.input own other read_only read_only') s t)
    (plain : s.descriptors = .standard) (background : c.background = true) (env : Environment)
    (argv : List String) :
    LikeResult (.input own other read_only read_only') (Session.bear env c argv s)
      (Session.bear env c argv t) := by
  have born := like.addChild (Launch.dispositions env c) c.background
  have plain' : (s.addChild (Launch.dispositions env c) c.background).1.descriptors = .standard := plain
  obtain ⟨rest, first, -⟩ := born.machine.opened
  refine born.runChild env c argv ?_
  rw [plain']
  exact fun like => like.run_background (by rw [first]; exact Nat.succ_ne_zero _) background

/-! ### Its output -/

/-- The shell's standard streams are those that it was started with, its input with given data. -/
structure Attached (data : Bytes) (s : Session) : Prop extends Wired s where
  input : ∃ offset, s.machine.opened[0]? =
    some { target := .unnamed data, offset, readable := true, writable := false }
  error : ∃ offset, s.machine.opened[2]? =
    some { target := .stream .err, offset, readable := false, writable := true }

theorem attached_initial (options : Options) (tree : FileTree) (cwd : Place) (nextPid : Pid)
    (input : Bytes) : (initial options tree cwd nextPid input).Attached input :=
  ⟨wired_initial options tree cwd nextPid input, ⟨0, rfl⟩, ⟨0, rfl⟩⟩

theorem Attached.exists_input {data : Bytes} (attached : s.Attached data) :
    ∃ own, s.machine.opened[0]? = some own ∧ own.writable = false := by
  obtain ⟨offset, there⟩ := attached.input
  exact ⟨_, there, rfl⟩

/-- A session stays attached to its input while open files stand for the same. -/
theorem Keeps.attached {data : Bytes} (keeps : Keeps s t) (attached : s.Attached data) :
    t.Attached data := by
  obtain ⟨offset, input⟩ := attached.input
  obtain ⟨offset', error⟩ := attached.error
  exact ⟨keeps.wired attached.toWired, keeps.machine 0 _ input, keeps.machine 2 _ error⟩

/-- A background child that is set up cannot write to the shell's output. -/
theorem avoids_prepare {data : Bytes} (attached : s.Attached data)
    (background : c.background = true)
    (ok : (Launch.prepare c s.machine .standard).2.2 = .ok ()) :
    (Launch.prepare c s.machine .standard).1.Avoids .out
      (Launch.prepare c s.machine .standard).2.1 := by
  obtain ⟨place, file, -, named, machine, descriptors⟩ := Launch.prepare_background background ok
  obtain ⟨offset, output⟩ := attached.output
  obtain ⟨offset', error⟩ := attached.error
  intro n id leads
  rw [descriptors] at leads
  rw [machine]
  split at leads
  · cases leads
    exact ⟨file, by simp, named _⟩
  · split at leads
    · cases leads
      refine ⟨s.machine.outlet place, by simp, ?_⟩
      unfold Machine.outlet
      dsimp only
      split <;> simp
    · split at leads <;> cases leads
      have last : n = 2 := by
        unfold standardInput standardOutput standardError at *
        omega
      subst last
      refine ⟨_, List.getElem?_append_left (List.getElem?_eq_some_iff.1 error).1 ▸ error, ?_⟩
      simp

/-- A child whose descriptors lead past a stream writes nothing to it. -/
theorem writtenTo_runChild (plain : s.descriptors = .standard)
    (avoids : (Launch.prepare c s.machine s.descriptors).1.Avoids stream
      (Launch.prepare c s.machine s.descriptors).2.1) :
    (Launch.runChild env c argv s).1.machine.transcript.writtenTo stream =
      s.machine.transcript.writtenTo stream := by
  have untold : (Launch.prepare c s.machine s.descriptors).1.transcript = s.machine.transcript :=
    Launch.transcript_prepare c s.machine (plain ▸ Descriptors.hasStandard_standard)
  unfold Launch.runChild
  generalize Launch.prepare c s.machine s.descriptors = prepared at avoids untold
  obtain ⟨m, d, result⟩ := prepared
  exact (writtenTo_run (s := { s with machine := m }) _ _ avoids).trans (congrArg _ untold)

/-- A child whose output cannot be opened says so on the shell's output, and does nothing else. -/
theorem shows_bear {path : String} (wired : s.Wired)
    (asked : Launch.redirection c.output c.background = some path)
    (refused : Launch.outputPlace? c s.machine = none) :
    Shows (Launch.complaint ("cannot open " ++ path ++ " for output")) s (bear env c argv s).1 := by
  have obstacle : s.obstacle? env c argv = some ("cannot open " ++ path ++ " for output") := by
    have refused' : Launch.outputPlace? c
        (s.addChild (Launch.dispositions env c) c.background).1.machine = none := refused
    rw [obstacle?, Launch.obstacle?, Launch.prepare,
      Launch.redirectOutput_of_refused asked refused']
  obtain ⟨-, shows⟩ := bear_of_obstacle wired obstacle
  rw [refused] at shows
  exact shows

/-- A background child whose output can be opened writes nothing to the shell's output. -/
theorem writtenTo_bear {data : Bytes} {place : Place} (attached : s.Attached data)
    (background : c.background = true) (leads : Launch.outputPlace? c s.machine = some place) :
    (bear env c argv s).1.machine.transcript.writtenTo .out =
      s.machine.transcript.writtenTo .out := by
  have added := untouched_addChild s (Launch.dispositions env c) c.background
  have attached' := added.keeps.attached attached
  cases set_up : (Launch.prepare c (s.addChild (Launch.dispositions env c) c.background).1.machine
      .standard).2.2 with
  | error e =>
    have obstacle : s.obstacle? env c argv = some e := by
      rw [← attached.descriptors] at set_up
      unfold Session.obstacle? Launch.obstacle?
      generalize Launch.prepare c _ s.descriptors = prepared at set_up
      obtain ⟨m, d, result⟩ := prepared
      dsimp only at set_up
      rw [set_up]
    obtain ⟨-, hides⟩ := bear_of_obstacle attached.toWired obstacle
    rw [leads] at hides
    exact Transcript.writtenTo_congr hides.output
  | ok _ =>
    have avoids := avoids_prepare attached' background set_up
    rw [← attached'.descriptors] at avoids
    exact (writtenTo_runChild attached'.descriptors avoids).trans (added.writtenTo .out)

/-! ## Up to the next line -/

variable {r : Reading} {piece : Bytes} {line : String}

/-- What can be read from an input that is there from the start depends only on how much of it has
been read. -/
theorem readInput_congr {data : Bytes} (attached : s.Attached data) (attached' : t.Attached data)
    (same : t.input? = s.input?) (limit : Option Nat) :
    (t.readInput limit).2 = (s.readInput limit).2 := by
  rw [input?_eq attached.descriptors, input?_eq attached'.descriptors] at same
  obtain ⟨offset, input⟩ := attached.input
  have reads : ∀ {w : Session}, w.descriptors = .standard →
      w.machine.opened[0]? = s.machine.opened[0]? →
      (w.readInput limit).2 = limit.elim (data.drop offset) (data.drop offset).take := by
    intro w plain there
    have leads : w.descriptors.get? standardInput = some 0 := by
      rw [plain]
      rfl
    show (w.machine.readFrom w.descriptors standardInput limit).2.getD [] = _
    rw [Machine.readFrom, leads]
    dsimp only
    rw [Machine.read, there, input]
    cases limit <;> rfl
  rw [reads attached.descriptors rfl, reads attached'.descriptors same]

/-- Whether a line makes a child does not depend on where two sessions differ. -/
theorem Like.spawns {L : Likeness} (like : Like L s t) (spawns : Spawns env s piece line c argv) :
    Spawns env t piece line c argv where
  accepted := by rw [like.accept, spawns.accepted]
  parsed := by rw [like.context, spawns.parsed]
  present := spawns.present
  spoken := spawns.spoken
  foreign := spawns.foreign
  passable := spawns.passable
  grants := by rw [like.refusesProcesses, spawns.grants]

/-- A line that starts a background job does so whatever the shell's input is, and leaves that
alone. -/
theorem Like.step_apart (like : Like (.input own other read_only read_only') s t)
    (plain : s.descriptors = .standard) (read : r.piece = some piece)
    (spawns : Spawns env (s.prompted r.waits) piece line c argv)
    (background : c.background = true) :
    LikeResult (.input own other read_only read_only') (s.step env r) (t.step env r) := by
  have prompted := like.prompted (ReadsLike.refl _ r).waits
  have taken := prompted.record (.taken piece)
  have plain' : ((s.prompted r.waits).record (.taken piece)).descriptors = .standard :=
    (untouched_prompted r.waits s).descriptors.trans plain
  have born := taken.bear_apart plain' background env argv
  rw [spawns.step_background read background,
    (prompted.spawns spawns).step_background read background]
  exact taken.carryOut_of_bear born (matches_refl _ r.meanwhile)

/-- The line of a background command, with any other input. -/
theorem step_withInput {data : Bytes} {file : OpenFile} (attached : s.Attached data)
    (read_only : file.writable = false) (read : r.piece = some piece)
    (spawns : Spawns env (s.prompted r.waits) piece line c argv)
    (background : c.background = true) :
    (s.withInput file).step env r = ((s.step env r).1.withInput file, (s.step env r).2) := by
  obtain ⟨own, there, fixed⟩ := attached.exists_input
  have plain := attached.descriptors
  have like := like_withInput fixed read_only plain there
  obtain ⟨stepped, same⟩ := like.step_apart plain read spawns background
  have plain' := (carries_step lasting_keeps env r s).descriptors.trans plain
  exact Prod.ext (stepped.eq_withInput plain').2 same

/-- A round whose line comes to no error goes on to the reaper. -/
theorem round_of_ok (ok : (s.step env r).2 = .ok) :
    s.round env r = ((s.step env r).1.afterLine, none) := by
  rw [round_eq]
  generalize s.step env r = result at ok
  obtain ⟨s', outcome⟩ := result
  cases ok
  rfl

/-- Once a background child has run, nothing is read or written before the next line. -/
theorem untouched_until_next (read : r.piece = some piece)
    (spawns : Spawns env (s.prompted r.waits) piece line c argv) (background : c.background = true)
    (waits : List (List Event)) :
    Untouched (bear env c argv ((s.prompted r.waits).record (.taken piece))).1
      ((s.round env r).1.prompted waits) := by
  have step := spawns.step_background read background
  have settled : Untouched (bear env c argv ((s.prompted r.waits).record (.taken piece))).1
      (s.step env r).1 := by
    rw [step, carryOut_of_background background]
    exact ((untouched_changeChild _ _ _).trans (untouched_jobs _ _)).trans (untouched_say _)
  rw [round_of_ok (by rw [step, carryOut_of_background background])]
  exact (settled.trans (untouched_afterLine _)).trans (untouched_prompted waits _)

theorem Untouched.input? (untouched : Untouched s t) : t.input? = s.input? := by
  rw [Session.input?, Session.input?, untouched.descriptors, untouched.opened]

/-- A background child leaves the shell's input as it is. -/
theorem input?_bear {data : Bytes} (attached : s.Attached data) (background : c.background = true) :
    (bear env c argv s).1.input? = s.input? := by
  obtain ⟨own, there, fixed⟩ := attached.exists_input
  have like := like_withInput fixed fixed attached.descriptors there
  have born := (like.bear_apart attached.descriptors background env argv).1
  have plain := (carries_bear lasting_keeps env c argv s).descriptors.trans attached.descriptors
  rw [input?_eq plain, input?_eq attached.descriptors, there]
  exact (born.eq_withInput plain).1

/-- With a null device, the output of a background command is in the way of its child only if it is
one that the command asks for. -/
theorem outputPlace?_background (device : s.machine.tree.HasNullDevice)
    (background : c.background = true)
    (granted : ∀ path, c.output = some path →
      ¬ ∃ e, s.machine.tree.locateForWriting s.machine.cwd path = .error e) :
    ∃ place, Launch.outputPlace? c s.machine = some place := by
  cases asked : c.output with
  | none =>
    refine ⟨["dev", "null"], ?_⟩
    rw [Launch.outputPlace?, asked, background]
    show (s.machine.tree.locateForWriting s.machine.cwd Launch.nullDevicePath).toOption = _
    rw [device.locateForWriting]
    rfl
  | some path =>
    rw [Launch.outputPlace?_of_output asked]
    cases located : s.machine.tree.locateForWriting s.machine.cwd path with
    | error e => exact absurd ⟨e, located⟩ (granted path asked)
    | ok place => exact ⟨place, rfl⟩

/-- A session reached from the start of the shell, at the taking of a line. -/
theorem Reaches.attached_taken {options : Options} {tree : FileTree} {cwd : Place} {nextPid : Pid}
    {input : Bytes} (reach : Reaches env (initial options tree cwd nextPid input) s)
    (waits : List (List Event)) (piece : Bytes) :
    ((s.prompted waits).record (.taken piece)).Attached input := by
  have taken : Untouched s ((s.prompted waits).record (.taken piece)) :=
    (untouched_prompted waits s).trans (untouched_record rfl)
  exact (reach.keeps.trans taken.keeps).attached (attached_initial options tree cwd nextPid input)

/-- A background command does not use the shell's input: whatever that holds, the command does the
same, and what can be read from it afterwards is what could be read before. Nor does anything that
its child writes show on the shell's output, whether or not the child becomes its program; only if
the command asks for a redirection of its output that cannot be opened, that is said there. A
foreground command has the shell's input and output where it asks for no redirection. -/
theorem background_stays_apart {options : Options} {tree : FileTree} {cwd : Place} {nextPid : Pid}
    {input : Bytes} (device : tree.HasNullDevice)
    (reach : Reaches env (initial options tree cwd nextPid input) s) (read : r.piece = some piece)
    (spawns : Spawns env (s.prompted r.waits) piece line c argv) :
    let p := (s.prompted r.waits).record (.taken piece)
    let next := fun waits => (s.round env r).1.prompted waits
    let refused := fun path => ∃ e, p.machine.tree.locateForWriting p.machine.cwd path = .error e
    let shown := fun s : Session => s.machine.transcript.writtenTo .out
    let d := (bear env c argv (p.setWaiting true)).2.1
    (c.background = true →
      (∀ file : OpenFile, file.writable = false →
        (s.withInput file).step env r = ((s.step env r).1.withInput file, (s.step env r).2)) ∧
      (∀ waits, (next waits).input? = p.input? ∧
        ∀ limit, ((next waits).readInput limit).2 = (p.readInput limit).2) ∧
      (∀ path, c.output = some path → refused path → ∀ waits, shown (next waits) =
        shown p ++ [Launch.complaint ("cannot open " ++ path ++ " for output")]) ∧
      ((∀ path, c.output = some path → ¬ refused path) →
        ∀ waits, shown (next waits) = shown p)) ∧
    (c.background = false →
      (c.input = none → d.get? standardInput = p.descriptors.get? standardInput) ∧
      (c.output = none → d.get? standardOutput = p.descriptors.get? standardOutput)) := by
  intro p next refused shown d
  have attached : p.Attached input := reach.attached_taken r.waits piece
  have tree_same : p.machine.tree = s.machine.tree := (untouched_prompted r.waits s).tree
  have device' : p.machine.tree.HasNullDevice := tree_same ▸ device.fixed reach.fixed
  refine ⟨fun background => ?_, fun foreground => ⟨fun unasked => ?_, fun unasked => ?_⟩⟩
  · have until_next : ∀ waits, Untouched (bear env c argv p).1 (next waits) :=
      untouched_until_next read spawns background
    have later : ∀ waits, shown (next waits) = shown (bear env c argv p).1 :=
      fun waits => (until_next waits).writtenTo .out
    refine ⟨fun file read_only => ?_, fun waits => ?_, fun path asked ⟨e, located⟩ waits => ?_,
      fun granted waits => ?_⟩
    · have before := reach.keeps.attached (attached_initial options tree cwd nextPid input)
      exact step_withInput before read_only read spawns background
    · have kept : (next waits).input? = p.input? :=
        (until_next waits).input?.trans (input?_bear attached background)
      have lasts := (carries_bear lasting_keeps env c argv p).keeps.trans (until_next waits).keeps
      have attached' : (next waits).Attached input := lasts.attached attached
      exact ⟨kept, readInput_congr attached attached' kept⟩
    · have nowhere : Launch.outputPlace? c p.machine = none := by
        rw [Launch.outputPlace?_of_output asked, located]
        rfl
      have redirected : Launch.redirection c.output c.background = some path := by rw [asked]; rfl
      exact (later waits).trans (shows_bear attached.toWired redirected nowhere).writtenTo
    · obtain ⟨place, leads⟩ := outputPlace?_background device' background granted
      exact (later waits).trans (writtenTo_bear attached background leads)
  · refine Launch.prepare_input_of_unasked ?_
      (attached.descriptors ▸ Descriptors.hasStandard_standard)
    rw [unasked, foreground]
    rfl
  · refine Launch.prepare_output_of_unasked ?_
      (attached.descriptors ▸ Descriptors.hasStandard_standard)
    rw [unasked, foreground]
    rfl

/-- What has been typed ahead is there after a background command that would read it; another one
shows that its output cannot be opened. -/
theorem background_stays_apart_from_typed_input :
    let s := initial { maxJobs := 2 } FileTree.system homePlace (ownPid + 1) (Text.encode "typed\n")
    let next := fun text => (s.round memoryEnvironment (lineAfter text [])).1.prompted []
    let shown := fun text => (next text).machine.transcript.writtenTo .out
    ((next "cat &").readInput none).2 = Text.encode "typed\n" ∧ shown "cat &" = [] ∧
      shown "cat > missing/out &" =
        [Launch.complaint "cannot open missing/out for output"] := by
  intro s next shown
  have reading : Spawns memoryEnvironment (s.prompted [[]]) (Text.encode "cat &") "cat &"
      { argv := ["cat"], background := true } ["cat"] := by
    constructor <;> decide +kernel
  have refused : Spawns memoryEnvironment (s.prompted [[]]) (Text.encode "cat > missing/out &")
      "cat > missing/out &"
      { argv := ["cat"], output := some "missing/out", background := true } ["cat"] := by
    constructor <;> decide +kernel
  have start : Reaches memoryEnvironment s s := .refl
  have apart := background_stays_apart (r := lineAfter "cat &" [])
    FileTree.hasNullDevice_system start rfl reading
  have apart' := background_stays_apart (r := lineAfter "cat > missing/out &" [])
    FileTree.hasNullDevice_system start rfl refused
  obtain ⟨-, unread, -, silent⟩ := apart.1 rfl
  obtain ⟨-, -, said, -⟩ := apart'.1 rfl
  refine ⟨((unread []).2 none).trans (by decide +kernel), ?_, ?_⟩
  · exact (silent (by simp) []).trans (by decide +kernel)
  · exact (said "missing/out" rfl ⟨.noSuchFile, by decide +kernel⟩ []).trans (by decide +kernel)

end Session

end JobShell
