import JobShell.Proofs.Background
import JobShell.Proofs.Streams

/-!
# Children that do not become their program

A child whose redirections cannot be set up, or whose program cannot be started, writes the reason to
its own standard output and exits. By then its output may lead elsewhere, for it is set up first:
the reason is shown to the user unless the command asks for a redirection of its output that can be
opened, and goes to the target of that redirection otherwise.

* `Launch.runChild_of_obstacle`: all that such a child does.
* `refusal_shown_iff`: where a foreground command's reason goes.
-/

namespace JobShell

/-! ## What is written first -/

namespace Machine

variable {m : Machine} {id : OpenId} {offset : Nat} {readable : Bool} {place : Place}
variable {more : List OpenFile}

theorem write_stream {stream : Stream} (data : Bytes)
    (there : m.opened[id]? = some { target := .stream stream, offset, readable, writable := true }) :
    (m.write id data).1 = m.record (.written stream data) := by
  rw [write, there]
  rfl

/-- A write to the null device leaves no trace. -/
theorem write_nullDevice (data : Bytes)
    (there : m.opened[id]? = some { target := .nullDevice, offset, readable, writable := true }) :
    (m.write id data).1 = m := by
  rw [write, there]
  rfl

/-- A write to a file is put where the offset stands. -/
theorem write_file (data : Bytes)
    (there : m.opened[id]? = some { target := .file place, offset, readable, writable := true }) :
    (m.write id data).1.transcript = m.transcript ∧ (m.write id data).1.tree =
      m.tree.setContents place (splice (m.tree.contents place) offset data) := by
  rw [write, there]
  exact ⟨rfl, rfl⟩

theorem splice_empty (data : Bytes) : splice [] 0 data = data := by
  cases data with
  | nil => rfl
  | cons byte data => simp [splice]

/-- What is written first to a file that has just been opened is all that is in it. -/
theorem write_outlet (data : Bytes) (below : place ≠ [])
    (file : m.tree.node? place ≠ some .directory) :
    let opened := { m.withOutlet place with opened := m.opened ++ m.outlet place :: more }
    (opened.write m.opened.length data).1.transcript = m.transcript ∧
      (m.tree.node? place ≠ some .nullDevice →
        (opened.write m.opened.length data).1.tree.contents place = data) := by
  intro opened
  have found : opened.opened[m.opened.length]? = some (m.outlet place) := by simp [opened]
  by_cases null : m.tree.node? place = some .nullDevice
  · rw [outlet, if_pos null] at found
    rw [write_nullDevice data found]
    exact ⟨rfl, fun real => absurd null real⟩
  · rw [outlet, if_neg null] at found
    obtain ⟨transcript, tree⟩ := write_file data found
    obtain ⟨empty, filled⟩ := FileTree.contents_truncate below file null
    have empty' : opened.tree.contents place = [] := empty
    refine ⟨transcript, fun _ => ?_⟩
    rw [tree, empty', splice_empty]
    exact filled data

end Machine

namespace Launch

variable {env : Environment} {c : Command} {argv : List String} {s : Session} {m : Machine}
variable {d : Descriptors} {message : String} {place : Place}

/-- What is in the way of a child that is to become the program of a command, if anything is: its
output or its input cannot be opened, or its program cannot be started. -/
def obstacle? (env : Environment) (c : Command) (argv : List String) (m : Machine)
    (d : Descriptors) : Option String :=
  match prepare c m d with
  | (_, _, .error message) => some message
  | (m, d, .ok ()) =>
    match startProgram env m d argv with
    | .error message => some message
    | .ok _ => none

/-- The line that a child writes that does not become its program. -/
def complaint (message : String) : Bytes :=
  Text.encode (message ++ "\n")

/-- A child that does not become its program says why, and nothing else. -/
theorem runChild_of_obstacle (obstacle : obstacle? env c argv s.machine s.descriptors = some message) :
    runChild env c argv s =
      ({ s with machine := ((prepare c s.machine s.descriptors).1.writeTo
          (prepare c s.machine s.descriptors).2.1 standardOutput (complaint message)).1 },
        (prepare c s.machine s.descriptors).2.1, .dead (.exited 1)) := by
  unfold obstacle? at obstacle
  unfold runChild
  generalize prepare c s.machine s.descriptors = prepared at obstacle
  obtain ⟨m, d, prepared⟩ := prepared
  cases prepared with
  | error e =>
    cases obstacle
    rfl
  | ok _ =>
    dsimp only at obstacle ⊢
    cases started : startProgram env m d argv with
    | error e =>
      rw [started] at obstacle
      cases obstacle
      rw [program, started]
      rfl
    | ok _ =>
      rw [started] at obstacle
      cases obstacle

theorem outputPlace?_eq_some (leads : outputPlace? c m = some place) :
    ∃ path, redirection c.output c.background = some path ∧
      m.tree.locateForWriting m.cwd path = .ok place := by
  obtain ⟨path, asked, located⟩ := Option.bind_eq_some_iff.1 leads
  cases result : m.tree.locateForWriting m.cwd path with
  | error e =>
    rw [result] at located
    cases located
  | ok found =>
    rw [result] at located
    cases located
    exact ⟨path, asked, result⟩

/-- What a child whose descriptors have been set up writes first goes to the stream, where its output
led before, or to the place that it leads to now. -/
theorem writeTo_prepare {offset : Nat} (leads : d.get? standardOutput = some 1)
    (there : m.opened[1]? =
      some { target := .stream .out, offset, readable := false, writable := true })
    (has : d.HasStandard) (data : Bytes) :
    let written := ((prepare c m d).1.writeTo (prepare c m d).2.1 standardOutput data).1
    match outputPlace? c m with
    | none => written.transcript = m.transcript ++ [.written .out data]
    | some place => written.transcript = m.transcript ∧
      (m.tree.node? place ≠ some .nullDevice → written.tree.contents place = data) := by
  intro written
  have output := prepare_output c m has
  cases led : outputPlace? c m with
  | none =>
    rw [led] at output
    obtain ⟨kept, more, made⟩ := output
    have longer : (prepare c m d).1.opened[1]? =
        some { target := .stream .out, offset, readable := false, writable := true } := by
      rw [made]
      exact List.getElem?_append_left (List.getElem?_eq_some_iff.1 there).1 ▸ there
    have wrote : written = (prepare c m d).1.record (.written .out data) := by
      show (Machine.writeTo _ _ _ _).1 = _
      rw [Machine.writeTo, kept.trans leads]
      exact Machine.write_stream data longer
    rw [wrote, made]
    rfl
  | some place =>
    rw [led] at output
    obtain ⟨leads', more, made⟩ := output
    obtain ⟨path, -, located⟩ := outputPlace?_eq_some led
    obtain ⟨below, file⟩ := FileTree.locateForWriting_ok located
    have wrote : written = ((prepare c m d).1.write m.opened.length data).1 := by
      show (Machine.writeTo _ _ _ _).1 = _
      rw [Machine.writeTo, leads']
    rw [wrote, made]
    exact Machine.write_outlet data below file

theorem outputPlace?_of_output {path : String} (asked : c.output = some path) :
    outputPlace? c m = (m.tree.locateForWriting m.cwd path).toOption := by
  rw [outputPlace?, asked]
  rfl

/-- The output of a foreground command leads where the shell's does unless the command asks for
another place, which can be opened. -/
theorem outputPlace?_eq_none_iff (foreground : c.background = false) :
    outputPlace? c m = none ↔
      ∀ path, c.output = some path → ∃ e, m.tree.locateForWriting m.cwd path = .error e := by
  cases asked : c.output with
  | none =>
    have kept : outputPlace? c m = none := by
      rw [outputPlace?, asked, foreground]
      rfl
    exact iff_of_true kept (by simp)
  | some path =>
    rw [outputPlace?_of_output asked]
    cases located : m.tree.locateForWriting m.cwd path with
    | error e =>
      refine iff_of_true rfl fun other same => ?_
      cases same
      exact ⟨e, located⟩
    | ok place =>
      refine iff_of_false (fun none_there => by cases none_there) fun refused => ?_
      obtain ⟨e, there⟩ := refused path rfl
      rw [located] at there
      cases there

end Launch

/-! ## Where the reason goes -/

namespace Session

variable {env : Environment} {s s' w : Session} {r : Reading} {piece : Bytes} {line : String}
variable {c : Command} {argv : List String} {message : String} {text : Bytes} {place : Place}

/-- What is in the way of the child that is made for a command. -/
def obstacle? (env : Environment) (c : Command) (argv : List String) (s : Session) :
    Option String :=
  Launch.obstacle? env c argv (s.addChild (Launch.dispositions env c) c.background).1.machine
    s.descriptors

/-- Between `s` and `s'` the children have shown a text on the shell's output, and nothing else. -/
def Shows (text : Bytes) (s s' : Session) : Prop :=
  s'.machine.transcript.output = s.machine.transcript.output ++ [.written .out text]

/-- Between `s` and `s'` the children have shown nothing, and a text has become the contents of the
file at a place. The null device keeps nothing. -/
structure Hides (text : Bytes) (place : Place) (s s' : Session) : Prop where
  output : s'.machine.transcript.output = s.machine.transcript.output
  contents : s.machine.tree.node? place ≠ some .nullDevice →
    s'.machine.tree.contents place = text

theorem Hides.not_shows (hides : Hides text place s s') : ¬ Shows text s s' := by
  intro shows
  rw [Shows, hides.output] at shows
  simp at shows

theorem Shows.untouched (shows : Shows text s w) (untouched : Untouched w s') : Shows text s s' :=
  untouched.output.trans shows

theorem Hides.untouched (hides : Hides text place s w) (untouched : Untouched w s') :
    Hides text place s s' :=
  ⟨untouched.output.trans hides.output, fun real => by
    rw [untouched.tree]
    exact hides.contents real⟩

/-- A child that meets an obstacle gives its reason where its output leads, and exits with 1. -/
theorem bear_of_obstacle (wired : s.Wired) (obstacle : s.obstacle? env c argv = some message) :
    (bear env c argv s).2.2 = .dead (.exited 1) ∧
      match Launch.outputPlace? c s.machine with
      | none => Shows (Launch.complaint message) s (bear env c argv s).1
      | some place => Hides (Launch.complaint message) place s (bear env c argv s).1 := by
  have added : Untouched s (s.addChild (Launch.dispositions env c) c.background).1 :=
    untouched_addChild s _ _
  have whole : bear env c argv s = _ := Launch.runChild_of_obstacle obstacle
  obtain ⟨offset, there⟩ := wired.output
  have leads : s.descriptors.get? standardOutput = some 1 := by
    rw [wired.descriptors]
    rfl
  have has : s.descriptors.HasStandard := by
    rw [wired.descriptors]
    exact Descriptors.hasStandard_standard
  have wrote := Launch.writeTo_prepare (c := c)
    (m := (s.addChild (Launch.dispositions env c) c.background).1.machine) leads there has
    (Launch.complaint message)
  have same : Launch.outputPlace? c (s.addChild (Launch.dispositions env c) c.background).1.machine =
    Launch.outputPlace? c s.machine := rfl
  rw [same] at wrote
  rw [whole]
  refine ⟨rfl, ?_⟩
  cases led : Launch.outputPlace? c s.machine with
  | none =>
    rw [led] at wrote
    have shown := congrArg Transcript.output wrote
    rw [Transcript.output_append, added.output] at shown
    exact shown
  | some place =>
    rw [led] at wrote
    exact ⟨(congrArg Transcript.output wrote.1).trans added.output, wrote.2⟩

/-- The wait for a child that does not become its program ends, and changes nothing of where its
reason has gone. -/
theorem carryOut_of_obstacle (meanwhile : List Event) (foreground : c.background = false)
    (state : (bear env c argv s).2.2 = .dead (.exited 1)) :
    (s.carryOut env c argv meanwhile).2 = .ok ∧
      (s.carryOut env c argv meanwhile).1.lastStatus = .exited 1 ∧
      Untouched (bear env c argv s).1 (s.carryOut env c argv meanwhile).1 := by
  have attended : Untouched (bear env c argv s).1 (s.attend env c argv meanwhile) :=
    ((untouched_jobs _ _).trans (untouched_applyAll _ meanwhile)).trans (untouched_changeChild _ _ _)
  have self : (s.attend env c argv meanwhile).stateOf s.newPid = some (.dead (.exited 1)) :=
    stateOf_attend.trans (congrArg some state)
  have rest := (attended.trans (untouched_afterWait _ s.newPid)).trans
    (untouched_noteEnd _ (Termination.exited 1).decode)
  rw [carryOut_of_foreground foreground, awaitForeground_eq, self]
  exact ⟨rfl, rfl, rest⟩

/-- The reason why a foreground command does not become its program is shown to the user exactly if
the command asks for no redirection of its output, or for one that cannot be opened. Otherwise the
user sees nothing, and the reason becomes the contents of the redirection's target. -/
theorem refusal_shown_iff {options : Options} {tree : FileTree} {cwd : Place} {nextPid : Pid}
    {input : Bytes}
    (reach : Reaches env (initial options tree cwd nextPid input) s) (read : r.piece = some piece)
    (spawns : Spawns env (s.prompted r.waits) piece line c argv) (foreground : c.background = false)
    (obstacle : ((s.prompted r.waits).record (.taken piece)).obstacle? env c argv = some message) :
    let p := (s.prompted r.waits).record (.taken piece)
    let target := fun path => p.machine.tree.locateForWriting p.machine.cwd path
    (s.step env r).2 = .ok ∧ (s.step env r).1.lastStatus = .exited 1 ∧
      (Shows (Launch.complaint message) p (s.step env r).1 ↔
        ∀ path, c.output = some path → ∃ e, target path = .error e) ∧
      ∀ path place, c.output = some path → target path = .ok place →
        Hides (Launch.complaint message) place p (s.step env r).1 := by
  intro p target
  have shown : Keeps (initial options tree cwd nextPid input) (p.setWaiting true) :=
    reach.keeps.trans (((untouched_prompted r.waits s).trans (untouched_record rfl)).trans
      (untouched_flags p _)).keeps
  have wired := shown.wired (wired_initial options tree cwd nextPid input)
  have step : s.step env r = (p.setWaiting true).carryOut env c argv r.meanwhile :=
    spawns.step_foreground read foreground
  obtain ⟨state, gone⟩ := bear_of_obstacle wired obstacle
  obtain ⟨ok, status, rest⟩ := carryOut_of_obstacle r.meanwhile foreground state
  have none_iff := Launch.outputPlace?_eq_none_iff (m := (p.setWaiting true).machine) foreground
  rw [step]
  refine ⟨ok, status, ?_⟩
  cases leads : Launch.outputPlace? c (p.setWaiting true).machine with
  | none =>
    rw [leads] at gone
    have refused := none_iff.1 leads
    refine ⟨iff_of_true (gone.untouched rest) refused, fun path place asked located => ?_⟩
    obtain ⟨e, there⟩ := refused path asked
    have located' : (p.setWaiting true).machine.tree.locateForWriting
      (p.setWaiting true).machine.cwd path = .ok place := located
    rw [there] at located'
    cases located'
  | some place =>
    rw [leads] at gone
    have hides := gone.untouched rest
    refine ⟨iff_of_false hides.not_shows fun refused => ?_, fun path place' asked located => ?_⟩
    · rw [none_iff.2 refused] at leads
      cases leads
    · have located' : (p.setWaiting true).machine.tree.locateForWriting
        (p.setWaiting true).machine.cwd path = .ok place' := located
      rw [Launch.outputPlace?_of_output asked, located'] at leads
      cases leads
      exact ⟨hides.output, hides.contents⟩

/-- Output to a directory that is not there cannot be opened, which is the reason that is shown. -/
theorem refusal_shown_for_missing_directory :
    let s := memoryShell 1
    let r := lineAfter "cat < in > missing/out" []
    let p := (s.prompted r.waits).record (.taken (Text.encode "cat < in > missing/out"))
    Shows (Launch.complaint "cannot open missing/out for output") p
      (s.step memoryEnvironment r).1 := by
  intro s r p
  have spawns : Spawns memoryEnvironment (s.prompted r.waits) (Text.encode "cat < in > missing/out")
      "cat < in > missing/out" { argv := ["cat"], input := some "in", output := some "missing/out" }
      ["cat"] := by
    constructor <;> decide +kernel
  have obstacle : p.obstacle? memoryEnvironment
      { argv := ["cat"], input := some "in", output := some "missing/out" } ["cat"] =
        some "cannot open missing/out for output" := by
    decide +kernel
  obtain ⟨-, -, shown, -⟩ := refusal_shown_iff .refl rfl spawns rfl obstacle
  refine shown.2 fun path asked => ⟨.noSuchFile, ?_⟩
  cases asked
  decide +kernel

/-- A redirection that can be opened hides the reason from the user. -/
theorem refusal_hidden_by_redirection :
    let s := memoryShell 1
    let r := lineAfter "nosuch > out" []
    let p := (s.prompted r.waits).record (.taken (Text.encode "nosuch > out"))
    let c : Command := { argv := ["nosuch"], output := some "out" }
    Spawns memoryEnvironment (s.prompted r.waits) (Text.encode "nosuch > out") "nosuch > out" c
        ["nosuch"] ∧
      c.background = false ∧
      p.obstacle? memoryEnvironment c ["nosuch"] = some "nosuch: no such file or directory" ∧
      ¬ Shows (Launch.complaint "nosuch: no such file or directory") p
        (s.step memoryEnvironment r).1 ∧
      (s.step memoryEnvironment r).1.machine.tree.contents (homePlace ++ ["out"]) =
        Launch.complaint "nosuch: no such file or directory" := by
  intro s r p c
  have written : (s.step memoryEnvironment r).1.machine.tree.contents (homePlace ++ ["out"]) =
      Launch.complaint "nosuch: no such file or directory" := by
    decide +kernel
  have hides : Hides (Launch.complaint "nosuch: no such file or directory") (homePlace ++ ["out"]) p
      (s.step memoryEnvironment r).1 := ⟨by decide +kernel, fun _ => written⟩
  refine ⟨?_, rfl, by decide +kernel, hides.not_shows, written⟩
  constructor <;> decide +kernel

end Session

end JobShell
