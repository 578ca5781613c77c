import JobShell.Proofs.Access
import Mathlib.Tactic.SplitIfs

/-!
# Redirections

What the setting up of a child's descriptors does to files, to open files and to the descriptors
themselves. Whatever is opened and used, an open file goes on standing for what it stands for.

* `Launch.redirect_of_ok`: a redirection changes one descriptor and no other.
* `Launch.prepare_output`: where a child's output leads once its descriptors have been set up.
* `Machine.acrossUse_keeps`: what has been open stays open.
* `Launch.prepare_alike`, `Launch.program_alike`: what a child that is set up does not see of the
  machine.
-/

namespace JobShell

/-! ## Files that are opened for writing -/

namespace FileTree

variable {t : FileTree} {place cwd : Place} {node : Node} {path : String}

theorem lookup_replace {nodes : List (Place × Node)} (there : (nodes.lookup place).isSome = true) :
    (nodes.map fun e => if e.1 = place then (place, node) else e).lookup place = some node := by
  induction nodes with
  | nil => cases there
  | cons e nodes ih =>
    obtain ⟨other, old⟩ := e
    rw [List.map_cons]
    by_cases here : other = place
    · simp [here]
    · have skip : (place == other) = false := by
        simpa using fun same : place = other => here same.symm
      rw [List.lookup_cons, skip] at there
      rw [if_neg here, List.lookup_cons, skip]
      exact ih there

/-- What has been put at a place below the root is there. -/
theorem node?_set (below : place ≠ []) : (t.set place node).node? place = some node := by
  unfold node? set
  rw [if_neg below]
  split <;> rename_i there
  · exact lookup_replace there
  · have missing : t.nodes.lookup place = none := by
      rwa [Bool.not_eq_true, Option.isSome_eq_false_iff, Option.isNone_iff_eq_none] at there
    rw [List.lookup_append, missing]
    simp

/-- What is opened for writing is no directory. -/
theorem locateForWriting_ok (located : t.locateForWriting cwd path = .ok place) :
    place ≠ [] ∧ t.node? place ≠ some .directory := by
  unfold locateForWriting at located
  cases checked : checkPath path with
  | error e => simp [checked, bind, Except.bind] at located
  | ok _ =>
  cases last : (names path).getLast? with
  | none => simp [checked, last, bind, Except.bind, throw, throwThe, MonadExceptOf.throw] at located
  | some name =>
  cases walked : t.walk (origin cwd path) (names path).dropLast with
  | error e => simp [checked, last, walked, bind, Except.bind] at located
  | ok parent =>
    simp only [checked, last, walked, bind, Except.bind, throw, throwThe, MonadExceptOf.throw, pure,
      Except.pure] at located
    split_ifs at located with _ _ _ regular
    cases located
    exact ⟨by simp, by simpa [isDirectory] using regular⟩

/-- A file that has been opened for writing is empty and takes what is written to it. -/
theorem contents_truncate (below : place ≠ []) (file : t.node? place ≠ some .directory)
    (real : t.node? place ≠ some .nullDevice) :
    (t.truncate place).contents place = [] ∧
      ∀ data, ((t.truncate place).setContents place data).contents place = data := by
  have emptied : ∃ mode, (t.truncate place).node? place = some (.file mode []) := by
    unfold truncate
    split
    · exact ⟨_, node?_set below⟩
    · rename_i node irregular there
      cases node with
      | directory => exact absurd there file
      | file mode data => exact absurd rfl (irregular mode data)
      | nullDevice => exact absurd there real
    · exact ⟨_, node?_set below⟩
  obtain ⟨mode, found⟩ := emptied
  refine ⟨by rw [contents, found], fun data => ?_⟩
  have filled : ((t.truncate place).setContents place data).node? place =
      some (.file mode data) := by
    rw [setContents, found]
    exact node?_set below
  rw [contents, filled]

end FileTree

/-! ## Open files -/

namespace Machine

variable {m m' m'' : Machine} {d : Descriptors} {path : String}

/-- What is open in `m` is open in `m'` and stands for the same; only offsets have moved. -/
def Keeps (m m' : Machine) : Prop :=
  ∀ (id : OpenId) (file : OpenFile), m.opened[id]? = some file →
    ∃ offset, m'.opened[id]? = some { file with offset }

/-- Files that are opened come behind those that are open. -/
theorem keeps_of_prefix (longer : m.opened <+: m'.opened) : m.Keeps m' := by
  intro id file here
  obtain ⟨more, grown⟩ := longer
  refine ⟨file.offset, ?_⟩
  rw [← grown]
  exact List.getElem?_append_left (List.getElem?_eq_some_iff.1 here).1 ▸ here

theorem Keeps.refl (m : Machine) : m.Keeps m :=
  keeps_of_prefix (List.prefix_refl _)

theorem Keeps.trans (first : m.Keeps m') (second : m'.Keeps m'') : m.Keeps m'' := by
  intro id file here
  obtain ⟨offset, there⟩ := first id file here
  obtain ⟨offset', last⟩ := second id _ there
  exact ⟨offset', last⟩

theorem keeps_seek (m : Machine) (id : OpenId) (offset : Nat) : m.Keeps (m.seek id offset) := by
  intro other file here
  by_cases same : id = other
  · subst same
    exact ⟨offset, by simp [seek, here]⟩
  · exact ⟨file.offset, by simp [seek, here, same]⟩

/-- A read moves an offset, and nothing else of any open file. -/
theorem keeps_read (m : Machine) (id : OpenId) (limit : Option Nat) :
    m.Keeps (m.read id limit).1 := by
  unfold read
  split
  · exact .refl m
  · split
    · split
      · exact .refl m
      · exact keeps_seek m id _
    · exact .refl m

theorem keeps_write (m : Machine) (id : OpenId) (data : Bytes) : m.Keeps (m.write id data).1 := by
  unfold write
  split
  · exact .refl m
  · split
    · split
      · exact keeps_seek { m with tree := _ } id _
      · exact .refl m
      · exact .refl m
    · exact .refl m

/-! ### Opening -/

/-- The open file at a place that has been opened for writing. -/
def outlet (m : Machine) (place : Place) : OpenFile where
  target := if m.tree.node? place = some .nullDevice then .nullDevice else .file place
  readable := false
  writable := true

/-- The machine in which a place has been opened for writing. -/
def withOutlet (m : Machine) (place : Place) : Machine :=
  { m with tree := m.tree.truncate place, opened := m.opened ++ [m.outlet place] }

/-- A file is opened for writing where its path leads, and is emptied or made. -/
theorem openWrite_eq (m : Machine) (path : String) :
    m.openWrite path = match m.tree.locateForWriting m.cwd path with
      | .error e => (m, .error e)
      | .ok place => (m.withOutlet place, .ok m.opened.length) :=
  rfl

/-- Opening for reading changes nothing but that there is one more open file. -/
theorem openRead_frame (m : Machine) (path : String) :
    ∃ more, (m.openRead path).1 = { m with opened := m.opened ++ more } := by
  unfold openRead
  split
  · exact ⟨[], by simp⟩
  · exact ⟨[_], rfl⟩

/-- What is opened by path is none of the standard streams. -/
theorem openRead_ok {id : OpenId} (opened : m.openRead path = (m', .ok id)) :
    id = m.opened.length ∧ ∃ file, m' = { m with opened := m.opened ++ [file] } ∧
      ∀ stream, file.target ≠ .stream stream := by
  unfold openRead at opened
  split at opened
  · cases opened
  · cases opened
    refine ⟨rfl, _, rfl, fun stream same => ?_⟩
    dsimp only at same
    split at same <;> cases same

theorem keeps_openRead (m : Machine) (path : String) : m.Keeps (m.openRead path).1 := by
  obtain ⟨more, frame⟩ := m.openRead_frame path
  rw [frame]
  exact keeps_of_prefix (List.prefix_append _ _)

theorem keeps_openWrite (m : Machine) (path : String) : m.Keeps (m.openWrite path).1 := by
  rw [openWrite_eq]
  split
  · exact .refl m
  · exact keeps_of_prefix (List.prefix_append _ _)

/-- No use of files changes what an open file stands for. -/
theorem acrossUse_keeps : AcrossUse Keeps :=
  ⟨.refl, .trans, keeps_openRead, keeps_openWrite, keeps_read, keeps_write⟩

end Machine

/-! ## Descriptors -/

/-- The three standard descriptors are open. -/
def Descriptors.HasStandard (d : Descriptors) : Prop :=
  ∀ n ≤ standardError, ∃ id, d.get? n = some id

theorem Descriptors.get?_standard (n : Nat) :
    Descriptors.standard.get? n = if n ≤ standardError then some n else none := by
  match n with
  | 0 => rfl
  | 1 => rfl
  | 2 => rfl
  | n + 3 => rfl

theorem Descriptors.hasStandard_standard : Descriptors.standard.HasStandard :=
  fun n low => ⟨n, by rw [get?_standard, if_pos low]⟩

/-- Where the standard streams are open, a new descriptor is none of them. -/
theorem Descriptors.HasStandard.lt_lowestFree {d : Descriptors} (has : d.HasStandard) :
    standardError < d.lowestFree := by
  rcases Nat.lt_or_ge standardError d.lowestFree with above | low
  · exact above
  · obtain ⟨id, taken⟩ := has d.lowestFree low
    rw [d.get?_lowestFree] at taken
    cases taken

namespace Launch

variable {opener : Handle.Opener} {purpose path : String} {target : Nat} {m m' : Machine}
variable {d : Descriptors} {c : Command} {id : OpenId} {e : Errno}

/-- A path that cannot be opened leaves the descriptors as they are. -/
theorem redirect_of_error (purpose : String) (target : Nat)
    (refused : opener m path = (m', .error e)) :
    redirect opener purpose target m d path =
      (m', d, .error ("cannot open " ++ path ++ " for " ++ purpose)) := by
  rw [redirect, Handle.openWith, refused]

/-- A redirection makes its descriptor lead to what has been opened, and no other one. -/
theorem redirect_of_ok (purpose : String) (opened : opener m path = (m', .ok id))
    (has : d.HasStandard) (low : target ≤ standardError) :
    ∃ d', redirect opener purpose target m d path = (m', d', .ok ()) ∧
      ∀ n, d'.get? n = if n = target then some id else d.get? n := by
  have high := has.lt_lowestFree
  have other : d.lowestFree ≠ target := by omega
  have new : (d.insert id).2.get? d.lowestFree = some id := by
    rw [d.get?_insert]
    exact if_pos rfl
  have within : target < Descriptors.limit := by
    unfold standardError at low
    unfold Descriptors.limit
    omega
  have copied : (d.insert id).2.duplicate (d.insert id).1 target =
      .ok ((d.insert id).2.set target id) := by
    show (d.insert id).2.duplicate d.lowestFree target = _
    rw [Descriptors.duplicate, new]
    exact if_pos within
  have still : ((d.insert id).2.set target id).get? d.lowestFree = some id := by
    rw [Descriptors.get?_set, if_neg other, new]
  have closed : ((d.insert id).2.set target id).close d.lowestFree =
      .ok (((d.insert id).2.set target id).erase d.lowestFree) := by
    rw [Descriptors.close, still]
  have ends : redirect opener purpose target m d path =
      (m', ((d.insert id).2.set target id).erase d.lowestFree, .ok ()) := by
    have duplicated : Handle.duplicate ⟨some (d.insert id).1⟩ ⟨some target⟩ (d.insert id).2 =
        .ok ((d.insert id).2.set target id) := by
      have apart : (⟨some (d.insert id).1⟩ : Handle).number? ≠ (⟨some target⟩ : Handle).number? :=
        fun same => other (Option.some.inj same)
      rw [Handle.duplicate, if_neg apart]
      dsimp only
      rw [copied]
    rw [redirect, Handle.openWith, opened]
    dsimp only
    rw [duplicated]
    show (m', (Handle.close ⟨some d.lowestFree⟩ _).2.1, _) = _
    rw [Handle.close]
    dsimp only
    rw [if_neg (by omega), closed]
  refine ⟨_, ends, fun n => ?_⟩
  rw [Descriptors.get?_erase, Descriptors.get?_set, Descriptors.get?_insert]
  by_cases here : n = d.lowestFree
  · subst here
    rw [if_pos rfl, if_neg other, d.get?_lowestFree]
  · have there : n ≠ (d.insert id).1 := here
    rw [if_neg here, if_neg there]

/-- The place, in the stead of the shell's own output, that the output of a command's child leads to,
if it can be opened. -/
def outputPlace? (c : Command) (m : Machine) : Option Place :=
  (redirection c.output c.background).bind fun path =>
    (m.tree.locateForWriting m.cwd path).toOption

/-- What the setting up of a child's output comes to. -/
inductive OutputSet (c : Command) (m : Machine) (d : Descriptors) :
    Machine × Descriptors × Except String Unit → Prop
  | kept {result : Except String Unit} : outputPlace? c m = none → OutputSet c m d (m, d, result)
  | led {place : Place} {d' : Descriptors} : outputPlace? c m = some place →
    (∀ n, d'.get? n = if n = standardOutput then some m.opened.length else d.get? n) →
    OutputSet c m d (m.withOutlet place, d', .ok ())

theorem outputSet_redirectOutput (c : Command) (m : Machine) (has : d.HasStandard) :
    OutputSet c m d (redirectOutput c m d) := by
  unfold redirectOutput
  cases asked : redirection c.output c.background with
  | none => exact .kept (by rw [outputPlace?, asked]; rfl)
  | some path =>
    dsimp only
    have leads : outputPlace? c m = (m.tree.locateForWriting m.cwd path).toOption := by
      rw [outputPlace?, asked]
      rfl
    have opened := m.openWrite_eq path
    cases located : m.tree.locateForWriting m.cwd path with
    | error e =>
      rw [located] at opened leads
      rw [redirect_of_error _ _ opened]
      exact .kept leads
    | ok place =>
      rw [located] at opened leads
      obtain ⟨d', result, descriptors⟩ :=
        redirect_of_ok "output" opened has (by decide : standardOutput ≤ standardError)
      rw [result]
      exact .led leads descriptors

theorem OutputSet.hasStandard {result : Machine × Descriptors × Except String Unit}
    (set : OutputSet c m d result) (has : d.HasStandard) : result.2.1.HasStandard := by
  cases set with
  | kept _ => exact has
  | led _ descriptors =>
    intro n low
    rw [descriptors]
    split
    · exact ⟨_, rfl⟩
    · exact has n low

/-- The setting up of a child's input makes no difference to its output, nor to any file. -/
theorem redirectInput_frame (c : Command) (m : Machine) (has : d.HasStandard) :
    (∃ more, (redirectInput c m d).1 = { m with opened := m.opened ++ more }) ∧
      ∀ n ≠ standardInput, (redirectInput c m d).2.1.get? n = d.get? n := by
  unfold redirectInput
  split <;> rename_i asked
  · rename_i path
    obtain ⟨more, frame⟩ := m.openRead_frame path
    cases opened : m.openRead path with
    | mk m' result =>
    rw [opened] at frame
    cases result with
    | error e =>
      rw [redirect_of_error _ _ opened]
      exact ⟨⟨more, frame⟩, fun _ _ => rfl⟩
    | ok id =>
      obtain ⟨d', result, descriptors⟩ :=
        redirect_of_ok "input" opened has (by decide : standardInput ≤ standardError)
      rw [result]
      exact ⟨⟨more, frame⟩, fun n other => (descriptors n).trans (if_neg other)⟩
  · exact ⟨⟨[], by simp⟩, fun _ _ => rfl⟩

/-- Where a child's output leads once its descriptors have been set up, well or not: to the place
that is asked for, if it can be opened, else to where it led before. -/
theorem prepare_output (c : Command) (m : Machine) (has : d.HasStandard) :
    match outputPlace? c m with
    | none => (prepare c m d).2.1.get? standardOutput = d.get? standardOutput ∧
      ∃ more, (prepare c m d).1 = { m with opened := m.opened ++ more }
    | some place => (prepare c m d).2.1.get? standardOutput = some m.opened.length ∧
      ∃ more, (prepare c m d).1 =
        { m.withOutlet place with opened := m.opened ++ m.outlet place :: more } := by
  have set := outputSet_redirectOutput c m has
  have has' := set.hasStandard has
  unfold prepare
  generalize redirectOutput c m d = result at set has'
  cases set with
  | @kept result none_led =>
    rw [none_led]
    cases result with
    | error e => exact ⟨rfl, [], by simp⟩
    | ok _ =>
      obtain ⟨frame, others⟩ := redirectInput_frame c m has
      exact ⟨others _ (by decide), frame⟩
  | @led place d' leads descriptors =>
    rw [leads]
    obtain ⟨⟨more, frame⟩, others⟩ := redirectInput_frame c (m.withOutlet place) has'
    refine ⟨(others _ (by decide)).trans ((descriptors _).trans (if_pos rfl)), more, ?_⟩
    refine frame.trans ?_
    simp [Machine.withOutlet]

theorem transcript_prepare (c : Command) (m : Machine) (has : d.HasStandard) :
    (prepare c m d).1.transcript = m.transcript := by
  have output := prepare_output c m has
  split at output
  · obtain ⟨-, more, made⟩ := output
    rw [made]
  · obtain ⟨-, more, made⟩ := output
    rw [made]
    rfl

/-- Output that is to be redirected, and cannot be, is the end of the matter. -/
theorem redirectOutput_of_refused {path : String}
    (asked : redirection c.output c.background = some path) (refused : outputPlace? c m = none) :
    redirectOutput c m d = (m, d, .error ("cannot open " ++ path ++ " for output")) := by
  have opened := m.openWrite_eq path
  rw [outputPlace?, asked] at refused
  cases located : m.tree.locateForWriting m.cwd path with
  | error e =>
    rw [located] at opened
    have wording : "cannot open " ++ path ++ " for " ++ "output" =
        "cannot open " ++ path ++ " for output" :=
      String.append_assoc
    rw [redirectOutput, asked, ← wording]
    exact redirect_of_error "output" standardOutput opened
  | ok place =>
    have led : (m.tree.locateForWriting m.cwd path).toOption = none := refused
    rw [located] at led
    cases led

/-- A successful redirection of the input opens one file. -/
theorem redirectInput_ok {path : String} (asked : redirection c.input c.background = some path)
    (has : d.HasStandard) (ok : (redirectInput c m d).2.2 = .ok ()) :
    ∃ file d', redirectInput c m d = ({ m with opened := m.opened ++ [file] }, d', .ok ()) ∧
      (∀ stream, file.target ≠ .stream stream) ∧
      ∀ n, d'.get? n = if n = standardInput then some m.opened.length else d.get? n := by
  unfold redirectInput at ok ⊢
  rw [asked] at ok ⊢
  dsimp only at ok ⊢
  cases opened : m.openRead path with
  | mk m' result =>
  cases result with
  | error e =>
    rw [redirect_of_error _ _ opened] at ok
    cases ok
  | ok id =>
    obtain ⟨d', result, descriptors⟩ :=
      redirect_of_ok "input" opened has (by decide : standardInput ≤ standardError)
    obtain ⟨rfl, file, rfl, named⟩ := Machine.openRead_ok opened
    exact ⟨file, d', result, named, descriptors⟩

/-- A child that has both its streams redirected has left the two that it was born with, and no
others. -/
theorem prepare_ok {out path : String} (asked : redirection c.output c.background = some out)
    (asked' : redirection c.input c.background = some path) (has : d.HasStandard)
    (ok : (prepare c m d).2.2 = .ok ()) :
    ∃ place file, outputPlace? c m = some place ∧ (∀ stream, file.target ≠ .stream stream) ∧
      (prepare c m d).1 =
        { m.withOutlet place with opened := m.opened ++ [m.outlet place, file] } ∧
      ∀ n, (prepare c m d).2.1.get? n =
        if n = standardInput then some (m.opened.length + 1)
        else if n = standardOutput then some m.opened.length else d.get? n := by
  have set := outputSet_redirectOutput c m has
  have has' := set.hasStandard has
  unfold prepare at ok ⊢
  cases leads : outputPlace? c m with
  | none =>
    rw [redirectOutput_of_refused asked leads] at ok
    cases ok
  | some place =>
    generalize redirectOutput c m d = result at set has' ok
    cases set with
    | kept none_led =>
      rw [none_led] at leads
      cases leads
    | @led place' d' leads' descriptors =>
      rw [leads'] at leads
      cases leads
      obtain ⟨file, d'', whole, named, descriptors'⟩ := redirectInput_ok asked' has' ok
      dsimp only
      rw [whole]
      refine ⟨place, file, rfl, named, by simp [Machine.withOutlet], fun n => ?_⟩
      rw [descriptors', descriptors]
      simp [Machine.withOutlet]

/-- A child's input leads where it led before, unless it is redirected. -/
theorem prepare_input_of_unasked (unasked : redirection c.input c.background = none)
    (has : d.HasStandard) :
    (prepare c m d).2.1.get? standardInput = d.get? standardInput := by
  have set := outputSet_redirectOutput c m has
  have same : ∀ m d, redirectInput c m d = (m, d, .ok ()) := by
    intro m d
    rw [redirectInput, unasked]
  unfold prepare
  generalize redirectOutput c m d = result at set
  cases set with
  | @kept result _ => cases result <;> simp [same]
  | led _ descriptors =>
    dsimp only
    rw [same]
    exact (descriptors _).trans (if_neg (by decide))

/-- So does its output. -/
theorem prepare_output_of_unasked (unasked : redirection c.output c.background = none)
    (has : d.HasStandard) :
    (prepare c m d).2.1.get? standardOutput = d.get? standardOutput := by
  have output := prepare_output c m has
  have nowhere : outputPlace? c m = none := by
    rw [outputPlace?, unasked]
    rfl
  rw [nowhere] at output
  exact output.1

end Launch

/-! ## What a child sees of the machine -/

/-- A relation between machines that a child does not see through while it is set up: it finds the
same files there, and what it opens and makes keeps the machines related. -/
structure Machine.Unnoticed (R : Machine → Machine → Prop) : Prop where
  tree {m m' : Machine} : R m m' → m'.tree = m.tree
  cwd {m m' : Machine} : R m m' → m'.cwd = m.cwd
  count {m m' : Machine} : R m m' → m'.opened.length = m.opened.length
  busy {m m' : Machine} : R m m' → m'.isBusy = m.isBusy
  rewrite {m m' : Machine} (tree : FileTree) : R m m' → R { m with tree } { m' with tree }
  grow {m m' : Machine} (more : List OpenFile) : R m m' →
    R { m with opened := m.opened ++ more } { m' with opened := m'.opened ++ more }

namespace Launch

variable {opener : Handle.Opener} {purpose path : String} {target : Nat} {m m' : Machine}
variable {d : Descriptors} {c : Command} {R : Machine → Machine → Prop}

/-- The same comes of an opening on two related machines, and they stay related. -/
def OpensAlike (R : Machine → Machine → Prop) (opener : Handle.Opener) : Prop :=
  ∀ {m m' : Machine} (path : String), R m m' →
    R (opener m path).1 (opener m' path).1 ∧ (opener m' path).2 = (opener m path).2

/-- A file opens in the same way on machines that differ in what no child notices. -/
theorem opensAlike_openRead (unnoticed : Machine.Unnoticed R) : OpensAlike R Machine.openRead := by
  intro m m' path related
  unfold Machine.openRead
  rw [unnoticed.tree related, unnoticed.cwd related]
  split
  · exact ⟨related, rfl⟩
  · exact ⟨unnoticed.grow _ related, congrArg Except.ok (unnoticed.count related)⟩

theorem opensAlike_openWrite (unnoticed : Machine.Unnoticed R) : OpensAlike R Machine.openWrite := by
  intro m m' path related
  have tree := unnoticed.tree related
  have located : m'.tree.locateForWriting m'.cwd path = m.tree.locateForWriting m.cwd path := by
    rw [tree, unnoticed.cwd related]
  rw [Machine.openWrite_eq, Machine.openWrite_eq, located]
  split
  · exact ⟨related, rfl⟩
  · rename_i place _
    have outlet : m'.outlet place = m.outlet place := by rw [Machine.outlet, tree, Machine.outlet]
    have opened :=
      unnoticed.grow [m.outlet place] (unnoticed.rewrite (m.tree.truncate place) related)
    refine ⟨?_, congrArg Except.ok (unnoticed.count related)⟩
    unfold Machine.withOutlet
    rw [outlet, tree]
    exact opened

theorem redirect_alike (opens : OpensAlike R opener) (related : R m m') :
    R (redirect opener purpose target m d path).1 (redirect opener purpose target m' d path).1 ∧
      (redirect opener purpose target m' d path).2 =
        (redirect opener purpose target m d path).2 := by
  obtain ⟨opened, same⟩ := opens path related
  unfold redirect Handle.openWith
  generalize opener m path = a, opener m' path = b at opened same
  obtain ⟨n, result⟩ := a
  obtain ⟨n', result'⟩ := b
  dsimp only at opened same
  subst same
  cases result' with
  | error e => exact ⟨opened, rfl⟩
  | ok id =>
    dsimp only
    split <;> exact ⟨opened, rfl⟩

/-- The setting up of a child comes to the same on two related machines. -/
theorem prepare_alike (unnoticed : Machine.Unnoticed R) (c : Command) (d : Descriptors)
    (related : R m m') :
    R (prepare c m d).1 (prepare c m' d).1 ∧ (prepare c m' d).2 = (prepare c m d).2 := by
  have output : R (redirectOutput c m d).1 (redirectOutput c m' d).1 ∧
      (redirectOutput c m' d).2 = (redirectOutput c m d).2 := by
    unfold redirectOutput
    split
    · exact redirect_alike (opensAlike_openWrite unnoticed) related
    · exact ⟨related, rfl⟩
  have input : ∀ {m m' : Machine} (d : Descriptors), R m m' →
      R (redirectInput c m d).1 (redirectInput c m' d).1 ∧
        (redirectInput c m' d).2 = (redirectInput c m d).2 := by
    intro m m' d related
    unfold redirectInput
    split
    · exact redirect_alike (opensAlike_openRead unnoticed) related
    · exact ⟨related, rfl⟩
  unfold prepare
  generalize redirectOutput c m d = a, redirectOutput c m' d = b at output
  obtain ⟨n, d, result⟩ := a
  obtain ⟨n', rest⟩ := b
  obtain ⟨related', same⟩ := output
  dsimp only at related' same
  subst same
  cases result with
  | error e => exact ⟨related', rfl⟩
  | ok _ => exact input d related'

/-- So does the look for its program. -/
theorem program_alike (unnoticed : Machine.Unnoticed R) (env : Environment) (c : Command)
    (argv : List String) (d : Descriptors) (prepared : Except String Unit) (related : R m m') :
    program env c argv m' d prepared = program env c argv m d prepared := by
  have opened : openExecutable m' d = openExecutable m d := by
    funext path
    unfold openExecutable
    rw [unnoticed.tree related, unnoticed.cwd related, unnoticed.busy related]
  have refused : ∀ scripts path, refusal m' d scripts path = refusal m d scripts path := by
    intro scripts
    induction scripts with
    | zero =>
      intro path
      rw [refusal, refusal, opened]
    | succ scripts ih =>
      intro path
      rw [refusal, refusal, opened]
      split
      · rfl
      · split
        · exact ih _
        · rfl
  have found : findScript env m' d = findScript env m d := by
    funext path
    unfold findScript
    rw [opened, refused]
  have started : startProgram env m' d argv = startProgram env m d argv := by
    unfold startProgram findProgram findImage
    rw [found]
  unfold program
  rw [started, unnoticed.cwd related]

end Launch

end JobShell
