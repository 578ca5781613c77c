import JobShell.Proofs.Handles
import JobShell.Proofs.NullDevice

/-!
# The descriptors of a child

A child opens the targets of its redirections with descriptors of their own, gives the open files the
numbers of the standard streams, and closes the former again. Whatever fails on the way, it is left
with the descriptors that it was born with, and only the two standard streams lead elsewhere.

* `redirected_redirectUnder`: one redirection, whether or not the system fails.
* `prepareUnder_sets_up`: the whole.
-/

namespace JobShell

variable {c : Command} {m m' : Machine} {d d' : Descriptors} {place other cwd : Place}
variable {path purpose : String} {id : OpenId}

/-! ## Files that are opened -/

namespace FileTree

variable {t : FileTree}

/-- What stands at a place that has been opened for writing: a file is empty, a new one if there was
none, and a device is as it was. -/
def emptied : Option Node → Option Node
  | some (.file mode _) => some (.file mode [])
  | none => some (.file newFileMode [])
  | node => node

/-- What is at a place after a file has been emptied. -/
theorem node?_truncate (below : place ≠ []) : (t.truncate place).node? other =
    if other = place then emptied (t.node? place) else t.node? other := by
  unfold truncate
  split <;> rename_i there
  · split <;> rename_i same
    · rw [same, node?_set below, there]
      rfl
    · exact node?_set_of_ne t _ same
  · rename_i node irregular
    split <;> rename_i same
    · rw [same, there]
      cases node with
      | file mode data => exact absurd rfl (irregular mode data)
      | directory => rfl
      | nullDevice => rfl
    · rfl
  · split <;> rename_i same
    · rw [same, node?_set below, there]
      rfl
    · exact node?_set_of_ne t _ same

end FileTree

namespace Machine

/-- The open file at a place that has been opened for reading. -/
def inlet (m : Machine) (place : Place) : OpenFile where
  target := match m.tree.node? place with
    | some .directory => .directory
    | some .nullDevice => .nullDevice
    | _ => .file place
  readable := true
  writable := false

/-- A file is opened for reading where its path leads. -/
theorem openRead_eq (m : Machine) (path : String) :
    m.openRead path = match m.tree.locate m.cwd path with
      | .error e => (m, .error e)
      | .ok place => ({ m with opened := m.opened ++ [m.inlet place] }, .ok m.opened.length) :=
  rfl

/-- The descriptor `n` refers to a file that has been opened since `m`. -/
def HasOpened (m m' : Machine) (d' : Descriptors) (n : Nat) (file : OpenFile) : Prop :=
  ∃ id, m.opened.length ≤ id ∧ d'.get? n = some id ∧ m'.opened[id]? = some file

end Machine

/-! ## One redirection -/

namespace Launch

variable {failures : Failures} {opener : Handle.Opener} {target : Nat} {path? : Option String}
variable {located : Except Errno Place} {after : Place → Machine}

/-- What can come of a redirection to a path, which leads to the place `located`, if it leads anywhere;
`after` is the machine in which that place has been opened. The descriptor refers to what has been
opened, and no other one has changed; or none has changed, for the system failed or the path cannot be
opened. -/
inductive Redirected (failures : Failures) (target : Nat) (m : Machine) (d : Descriptors)
    (located : Except Errno Place) (after : Place → Machine) :
    Machine × Descriptors × Except String Unit → Prop
  | led {place : Place} {d' : Descriptors} : located = .ok place →
    (∀ n, d'.get? n = if n = target then some m.opened.length else d.get? n) →
    Redirected failures target m d located after (after place, d', .ok ())
  | refused {m' : Machine} {d' : Descriptors} {message : String} :
    (failures = {} → m' = m ∧ ∃ e, located = .error e) → (∀ n, d'.get? n = d.get? n) →
    Redirected failures target m d located after (m', d', .error message)

/-- One redirection leaves the standard streams open, whatever fails. -/
theorem Redirected.hasStandard {result : Machine × Descriptors × Except String Unit}
    (redirected : Redirected failures target m d located after result) (has : d.HasStandard) :
    result.2.1.HasStandard := by
  intro n low
  cases redirected with
  | led _ descriptors =>
    rw [descriptors]
    split
    · exact ⟨_, rfl⟩
    · exact has n low
  | refused _ same =>
    rw [same]
    exact has n low

/-- A handle on a number above those of the standard streams takes its descriptor with it. -/
theorem get?_closeUnder_of_high {k : Nat} (high : standardError < k) (failure : Option Errno)
    (d : Descriptors) (n : Nat) :
    ((⟨some k⟩ : Handle).closeUnder failure d).2.1.get? n = if n = k then none else d.get? n := by
  rw [Handle.get?_closeUnder]
  by_cases here : n = k
  · rw [if_pos here, if_pos ⟨congrArg some here.symm, here ▸ high⟩]
  · rw [if_neg here, if_neg fun both => here (Option.some.inj both.1).symm]

/-- What one redirection comes to, for any call of the system that fails. -/
theorem redirected_redirectUnder (failures : Failures) (purpose : String) (has : d.HasStandard)
    (low : target ≤ standardError)
    (opens : opener m path = match located with
      | .error e => (m, .error e)
      | .ok place => (after place, .ok m.opened.length)) :
    Redirected failures target m d located after
      (redirectUnder failures opener purpose target m d path) := by
  unfold redirectUnder
  cases opened : Handle.openUnder failures.opening opener m d path with
  | mk m' rest =>
  obtain ⟨d', result⟩ := rest
  cases result with
  | error e =>
    obtain ⟨rfl, why⟩ := Handle.openUnder_error opened
    refine .refused (fun none => ?_) fun _ => rfl
    obtain ⟨e, refused⟩ := why (by rw [none])
    rw [opens] at refused
    cases located with
    | error e =>
      cases refused
      exact ⟨rfl, e, rfl⟩
    | ok place => cases refused
  | ok handle =>
    obtain ⟨-, rfl, id, made, rfl⟩ := Handle.openUnder_ok opened
    have high := has.lt_lowestFree
    have free := d.get?_lowestFree
    have inserted : ∀ n, (d.insert id).2.get? n = if n = d.lowestFree then some id else d.get? n :=
      d.get?_insert id
    have taken : (d.insert id).2.get? d.lowestFree = some id := by
      rw [inserted, if_pos rfl]
    have result := Handle.duplicated_duplicateUnder failures.duplicating ⟨some d.lowestFree⟩
      ⟨some target⟩ (d.insert id).2
    dsimp only
    generalize Handle.duplicateUnder failures.duplicating ⟨some d.lowestFree⟩ ⟨some target⟩
      (d.insert id).2 = outcome at result
    -- However the duplication comes out, the descriptor of the opening is closed again.
    cases result with
    | same equal =>
      have equal : d.lowestFree = target := Option.some.inj (congrArg Handle.number? equal)
      omega
    | refused apart why =>
      refine .refused (fun none => ?_) fun n => ?_
      · rcases why (by rw [none]) with dangling | beyond
        · exact absurd dangling (Handle.not_dangling taken)
        · have beyond := beyond target rfl
          unfold Descriptors.limit standardError at *
          omega
      · rw [get?_closeUnder_of_high high, inserted]
        split
        · rename_i here
          rw [here, free]
        · rfl
    | done source number apart works within here =>
      cases source
      cases number
      rw [taken] at here
      cases here
      rw [opens] at made
      cases located with
      | error e => cases made
      | ok place =>
        cases made
        refine .led rfl fun n => ?_
        rw [get?_closeUnder_of_high high, Descriptors.get?_set, inserted]
        by_cases here : n = d.lowestFree
        · rw [if_pos here, here, if_neg apart, free]
        · rw [if_neg here, if_neg here]

/-! ## Both redirections -/

/-- Without failures a child is set up as it always is. -/
theorem prepare_eq_prepareUnder (c : Command) (m : Machine) (d : Descriptors) :
    prepare c m d = prepareUnder {} c m d := by
  have redirect_eq : ∀ opener purpose target m d path,
      redirect opener purpose target m d path =
        redirectUnder {} opener purpose target m d path := by
    intro opener purpose target m d path
    unfold redirect redirectUnder Handle.openUnder
    dsimp only
    cases Handle.openWith opener m d path with
    | mk m' rest =>
    obtain ⟨d', result⟩ := rest
    cases result with
    | error e => rfl
    | ok handle =>
      dsimp only
      unfold Handle.duplicateUnder
      cases handle.duplicate ⟨some target⟩ d' <;> rfl
  have output : redirectOutput c m d = redirectAnyUnder {} Machine.openWrite "output"
      standardOutput (redirection c.output c.background) m d := by
    unfold redirectOutput redirectAnyUnder
    cases redirection c.output c.background with
    | none => rfl
    | some path => exact redirect_eq ..
  have input : ∀ m d, redirectInput c m d = redirectAnyUnder {} Machine.openRead "input"
      standardInput (redirection c.input c.background) m d := by
    intro m d
    unfold redirectInput redirectAnyUnder
    cases redirection c.input c.background with
    | none => rfl
    | some path => exact redirect_eq ..
  unfold prepare prepareUnder
  rw [output]
  dsimp only
  generalize redirectAnyUnder {} Machine.openWrite "output" standardOutput
    (redirection c.output c.background) m d = outcome
  obtain ⟨m', d', result⟩ := outcome
  cases result with
  | error e => rfl
  | ok _ => exact input m' d'

/-- Where a standard stream of a child leads: to the path that is asked for, in the background to the
null device if none is, else to where it led before. That it leads to a path is `opened path`, and
`kept` that it leads to where it did. -/
inductive Leads (asked : Option String) (background : Bool) (opened : String → Prop) (kept : Prop) :
    Prop
  | asked {path : String} : asked = some path → opened path → Leads asked background opened kept
  | nullDevice : asked = none → background = true → opened nullDevicePath →
    Leads asked background opened kept
  | kept : asked = none → background = false → kept → Leads asked background opened kept

/-- Where a stream leads: to the path that is asked for, to the null device in the background, or
where it led. -/
theorem leads_of_redirection {asked : Option String} {background : Bool} {opened : String → Prop}
    {kept : Prop} (led : ∀ path, redirection asked background = some path → opened path)
    (left : redirection asked background = none → kept) : Leads asked background opened kept := by
  cases asked with
  | some path => exact .asked rfl (led path rfl)
  | none =>
    cases background with
    | true => exact .nullDevice rfl rfl (led _ rfl)
    | false => exact .kept rfl rfl (left rfl)

/-- Standard output refers to a new open file at the beginning of what a path names, which has been
emptied or made and is the only place that has changed. -/
def Emptied (m : Machine) (m' : Machine) (d' : Descriptors) (path : String) : Prop :=
  ∃ place, m.tree.locateForWriting m.cwd path = .ok place ∧
    m.HasOpened m' d' standardOutput (m.outlet place) ∧
    ∀ other, m'.tree.node? other =
      if other = place then FileTree.emptied (m.tree.node? place) else m.tree.node? other

/-- Standard input refers to a new open file, for reading only, at the beginning of what a path names
now. -/
def OpenedToRead (m m' : Machine) (d' : Descriptors) (path : String) : Prop :=
  ∃ place, m'.tree.locate m'.cwd path = .ok place ∧
    m.HasOpened m' d' standardInput (m'.inlet place)

/-- The descriptors of a child that has been set up. -/
structure SetUp (c : Command) (m : Machine) (d : Descriptors) (m' : Machine) (d' : Descriptors) :
    Prop where
  output : Leads c.output c.background (Emptied m m' d')
    (d'.get? standardOutput = d.get? standardOutput ∧ m'.tree = m.tree)
  input : Leads c.input c.background (OpenedToRead m m' d')
    (d'.get? standardInput = d.get? standardInput)
  others : ∀ n, n ≠ standardInput → n ≠ standardOutput → d'.get? n = d.get? n
  /-- What was open is open still, at the same offset. -/
  opened : m.opened <+: m'.opened
  device : m.tree.HasNullDevice → c.background = true →
    (c.output = none → m.HasOpened m' d' standardOutput
      { target := .nullDevice, readable := false, writable := true }) ∧
    (c.input = none → m.HasOpened m' d' standardInput
      { target := .nullDevice, readable := true, writable := false })

/-- What is left of a child that has not been set up: no descriptor has been opened, and there is a
reason. -/
structure NotSetUp (failures : SetupFailures) (c : Command) (m : Machine) (d : Descriptors)
    (m' : Machine) (d' : Descriptors) : Prop where
  others : ∀ n, n ≠ standardInput → n ≠ standardOutput → d'.get? n = d.get? n
  unopened : ∀ n, standardError < n → d.get? n = none → d'.get? n = none
  standard : d'.HasStandard
  reason : failures = {} →
    (∃ path e, redirection c.output c.background = some path ∧
      m.tree.locateForWriting m.cwd path = .error e) ∨
    ∃ path e, redirection c.input c.background = some path ∧
      m'.tree.locate m'.cwd path = .error e

/-! ### The parts -/

theorem standardOutput_low : standardOutput ≤ standardError := by decide

theorem standardInput_low : standardInput ≤ standardError := by decide

/-- A redirection of output that has been carried out, if a path was asked for. -/
structure OutputRedirected (path? : Option String) (m : Machine) (d : Descriptors) (m' : Machine)
    (d' : Descriptors) : Prop where
  standard : d'.HasStandard
  others : ∀ n, n ≠ standardOutput → d'.get? n = d.get? n
  opened : m.opened <+: m'.opened
  led : ∀ path, path? = some path → Emptied m m' d' path
  left : path? = none → d'.get? standardOutput = d.get? standardOutput ∧ m'.tree = m.tree

/-- A redirection of input that has been carried out, if a path was asked for. -/
structure InputRedirected (path? : Option String) (m : Machine) (d : Descriptors) (m' : Machine)
    (d' : Descriptors) : Prop where
  others : ∀ n, n ≠ standardInput → d'.get? n = d.get? n
  opened : ∃ more, m' = { m with opened := m.opened ++ more }
  led : ∀ path, path? = some path → OpenedToRead m m' d' path
  left : path? = none → d'.get? standardInput = d.get? standardInput

/-- The redirection of the output, if there is to be one. -/
theorem redirectAnyUnder_output (failures : Failures) (path? : Option String) (m : Machine)
    (has : d.HasStandard) :
    match redirectAnyUnder failures Machine.openWrite "output" standardOutput path? m d with
    | (m', d', .ok ()) => OutputRedirected path? m d m' d'
    | (_, d', .error _) => (∀ n, d'.get? n = d.get? n) ∧ (failures = {} →
      ∃ path e, path? = some path ∧ m.tree.locateForWriting m.cwd path = .error e) := by
  cases path? with
  | none => exact ⟨has, fun _ _ => rfl, List.prefix_rfl, nofun, fun _ => ⟨rfl, rfl⟩⟩
  | some path =>
    have result := redirected_redirectUnder failures "output" has standardOutput_low
      (m.openWrite_eq path)
    unfold redirectAnyUnder
    dsimp only
    generalize redirectUnder failures Machine.openWrite "output" standardOutput m d path = outcome
      at result
    have has' := result.hasStandard has
    cases result with
    | refused why same =>
      refine ⟨same, fun none => ?_⟩
      obtain ⟨-, e, refused⟩ := why none
      exact ⟨path, e, rfl, refused⟩
    | @led place d' located descriptors =>
      have below := (FileTree.locateForWriting_ok located).1
      refine ⟨has', fun n apart => (descriptors n).trans (if_neg apart), List.prefix_append _ _,
        fun path' same => ?_, nofun⟩
      cases same
      refine ⟨place, located, ⟨_, le_rfl, (descriptors _).trans (if_pos rfl), ?_⟩, fun other =>
        FileTree.node?_truncate below⟩
      simp [Machine.withOutlet]

/-- The redirection of the input, if there is to be one. -/
theorem redirectAnyUnder_input (failures : Failures) (path? : Option String) (m : Machine)
    (has : d.HasStandard) :
    match redirectAnyUnder failures Machine.openRead "input" standardInput path? m d with
    | (m', d', .ok ()) => InputRedirected path? m d m' d'
    | (m', d', .error _) => (∀ n, d'.get? n = d.get? n) ∧ (failures = {} → m' = m ∧
      ∃ path e, path? = some path ∧ m.tree.locate m.cwd path = .error e) := by
  cases path? with
  | none => exact ⟨fun _ _ => rfl, ⟨[], by simp⟩, nofun, fun _ => rfl⟩
  | some path =>
    have result := redirected_redirectUnder failures "input" has standardInput_low
      (m.openRead_eq path)
    unfold redirectAnyUnder
    dsimp only
    generalize redirectUnder failures Machine.openRead "input" standardInput m d path = outcome
      at result
    cases result with
    | refused why same =>
      refine ⟨same, fun none => ?_⟩
      obtain ⟨kept, e, refused⟩ := why none
      exact ⟨kept, path, e, rfl, refused⟩
    | @led place d' located descriptors =>
      refine ⟨fun n apart => (descriptors n).trans (if_neg apart), ⟨_, rfl⟩, fun path' same => ?_,
        nofun⟩
      cases same
      refine ⟨place, located, _, le_rfl, (descriptors _).trans (if_pos rfl), ?_⟩
      simp [Machine.inlet]

/-! ### The whole -/

variable {m₁ m₂ : Machine} {d₁ d₂ : Descriptors}

/-- The file for the output stays emptied while the input is redirected. -/
theorem Emptied.of_input (emptied : Emptied m m₁ d₁ path)
    (input : InputRedirected path? m₁ d₁ m₂ d₂) : Emptied m m₂ d₂ path := by
  obtain ⟨place, located, ⟨id, new, leads, here⟩, nodes⟩ := emptied
  obtain ⟨more, rfl⟩ := input.opened
  refine ⟨place, located, ⟨id, new, (input.others _ (by decide)).trans leads, ?_⟩, nodes⟩
  rw [List.getElem?_append_left (List.getElem?_eq_some_iff.1 here).1]
  exact here

/-- The file for the input is the one that was there before the output was redirected. -/
theorem OpenedToRead.of_output (opened : OpenedToRead m₁ m₂ d₂ path)
    (output : OutputRedirected path? m d m₁ d₁) : OpenedToRead m m₂ d₂ path := by
  obtain ⟨place, located, id, new, here⟩ := opened
  exact ⟨place, located, id, output.opened.length_le.trans new, here⟩

theorem Emptied.fixed (emptied : Emptied m m' d' path) : m.tree.Fixed m'.tree := by
  obtain ⟨place, -, -, nodes⟩ := emptied
  intro other node irregular there
  rw [nodes]
  split
  · rename_i same
    rw [← same, there]
    cases node with
    | file mode data => exact absurd rfl (irregular mode data)
    | directory => rfl
    | nullDevice => rfl
  · exact there

theorem Leads.fixed {asked : Option String} {background : Bool}
    (leads : Leads asked background (Emptied m m' d')
      (d'.get? standardOutput = d.get? standardOutput ∧ m'.tree = m.tree)) :
    m.tree.Fixed m'.tree := by
  cases leads with
  | asked _ emptied => exact emptied.fixed
  | nullDevice _ _ emptied => exact emptied.fixed
  | kept _ _ kept => exact kept.2 ▸ .refl m.tree

/-- The null device is opened like a file, and is not emptied. -/
theorem Emptied.nullDevice (has : m.tree.HasNullDevice) (emptied : Emptied m m' d' nullDevicePath) :
    m.HasOpened m' d' standardOutput { target := .nullDevice, readable := false, writable := true } := by
  obtain ⟨place, located, refers, -⟩ := emptied
  rw [has.locateForWriting] at located
  cases located
  rwa [Machine.outlet, if_pos has.device] at refers

theorem OpenedToRead.nullDevice (has : m'.tree.HasNullDevice)
    (opened : OpenedToRead m m' d' nullDevicePath) :
    m.HasOpened m' d' standardInput { target := .nullDevice, readable := true, writable := false } := by
  obtain ⟨place, located, refers⟩ := opened
  rw [has.locate] at located
  cases located
  rwa [Machine.inlet, has.device] at refers

theorem Leads.opened_nullDevice {asked : Option String} {background : Bool}
    {opened : String → Prop} {kept : Prop} (leads : Leads asked background opened kept)
    (unasked : asked = none) (behind : background = true) : opened nullDevicePath := by
  cases leads with
  | asked asked _ =>
    rw [unasked] at asked
    cases asked
  | nullDevice _ _ opened => exact opened
  | kept _ front _ =>
    rw [behind] at front
    cases front

/-- Output has been redirected, and then input. -/
theorem OutputRedirected.setUp
    (output : OutputRedirected (redirection c.output c.background) m d m₁ d₁)
    (input : InputRedirected (redirection c.input c.background) m₁ d₁ m₂ d₂) :
    SetUp c m d m₂ d₂ := by
  have toOutput : Leads c.output c.background (Emptied m m₂ d₂)
      (d₂.get? standardOutput = d.get? standardOutput ∧ m₂.tree = m.tree) := by
    refine leads_of_redirection (fun path asked => (output.led path asked).of_input input)
      fun unasked => ?_
    obtain ⟨kept, tree⟩ := output.left unasked
    obtain ⟨more, rfl⟩ := input.opened
    exact ⟨(input.others _ (by decide)).trans kept, tree⟩
  have toInput : Leads c.input c.background (OpenedToRead m m₂ d₂)
      (d₂.get? standardInput = d.get? standardInput) :=
    leads_of_redirection (fun path asked => (input.led path asked).of_output output) fun unasked =>
      (input.left unasked).trans (output.others _ (by decide))
  have opened : m.opened <+: m₂.opened := by
    obtain ⟨more, rfl⟩ := input.opened
    exact output.opened.trans (List.prefix_append _ _)
  refine ⟨toOutput, toInput, fun n apart apart' =>
    (input.others n apart).trans (output.others n apart'), opened, fun device behind =>
    ⟨fun unasked => ?_, fun unasked => ?_⟩⟩
  · exact (toOutput.opened_nullDevice unasked behind).nullDevice device
  · exact (toInput.opened_nullDevice unasked behind).nullDevice (device.fixed toOutput.fixed)

/-- What can come of the setting up of a child. -/
inductive Prepared (failures : SetupFailures) (c : Command) (m : Machine) (d : Descriptors) :
    Machine × Descriptors × Except String Unit → Prop
  | done {m' : Machine} {d' : Descriptors} : SetUp c m d m' d' →
    Prepared failures c m d (m', d', .ok ())
  | failed {m' : Machine} {d' : Descriptors} {message : String} : NotSetUp failures c m d m' d' →
    Prepared failures c m d (m', d', .error message)

/-- Both redirections, one after the other, with what is left if one of them fails. -/
theorem prepared_prepareUnder (failures : SetupFailures) (c : Command) (m : Machine)
    (has : d.HasStandard) : Prepared failures c m d (prepareUnder failures c m d) := by
  unfold prepareUnder
  cases dispositions : failures.dispositions with
  | some e =>
    refine .failed ⟨fun _ _ _ => rfl, fun _ _ closed => closed, has, fun none => ?_⟩
    rw [none] at dispositions
    cases dispositions
  | none =>
    have output := redirectAnyUnder_output failures.output (redirection c.output c.background) m has
    dsimp only
    generalize redirectAnyUnder failures.output Machine.openWrite "output" standardOutput
      (redirection c.output c.background) m d = outcome at output
    obtain ⟨m₁, d₁, result⟩ := outcome
    cases result with
    | error e =>
      obtain ⟨same, why⟩ := output
      refine .failed ⟨fun n _ _ => same n, fun n _ closed => (same n).trans closed,
        fun n low => ?_, fun none => .inl (why (by rw [none]))⟩
      rw [same]
      exact has n low
    | ok _ =>
      have input := redirectAnyUnder_input failures.input (redirection c.input c.background) m₁
        output.standard
      dsimp only
      generalize redirectAnyUnder failures.input Machine.openRead "input" standardInput
        (redirection c.input c.background) m₁ d₁ = outcome at input
      obtain ⟨m₂, d₂, result⟩ := outcome
      cases result with
      | ok _ => exact .done (output.setUp input)
      | error e =>
        obtain ⟨same, why⟩ := input
        refine .failed ⟨fun n _ apart => (same n).trans (output.others n apart),
          fun n high closed => ?_, fun n low => ?_, fun none => ?_⟩
        · have apart : n ≠ standardOutput := Nat.ne_of_gt (standardOutput_low.trans_lt high)
          exact (same n).trans ((output.others n apart).trans closed)
        · rw [same]
          exact output.standard n low
        · obtain ⟨rfl, refused⟩ := why (by rw [none])
          exact .inr refused

/-- The setting up of a child, wherever the system fails. If it succeeds then output leads to its
target, which has been emptied or made, input leads to its own, which has been opened for reading,
and no other descriptor has changed. If it does not succeed then no descriptor above those of the
standard streams has been opened or closed. -/
theorem prepareUnder_sets_up (failures : SetupFailures) (c : Command) (m : Machine) (d : Descriptors)
    (has : d.HasStandard) :
    let result := prepareUnder failures c m d
    (result.2.2 = .ok () → SetUp c m d result.1 result.2.1) ∧
      (∀ message, result.2.2 = .error message → NotSetUp failures c m d result.1 result.2.1) ∧
      prepare c m d = prepareUnder {} c m d := by
  have prepared := prepared_prepareUnder failures c m has
  dsimp only
  generalize prepareUnder failures c m d = result at prepared
  cases prepared with
  | done setUp => exact ⟨fun _ => setUp, nofun, prepare_eq_prepareUnder c m d⟩
  | failed notSetUp => exact ⟨nofun, fun _ _ => notSetUp, prepare_eq_prepareUnder c m d⟩

/-- A close fails, and the child is set up all the same. A duplication fails, and nothing stays open of
what has been opened for it, though the output target has been emptied. -/
theorem prepareUnder_sets_up_past_failures :
    let tree := (FileTree.system.addFile ["home", "in"] 0o644 (Text.encode "new")).addFile
      ["home", "out"] 0o600 (Text.encode "old")
    let m := Machine.start tree ["home"] 1001 []
    let d := Descriptors.standard.set 4 0
    let c : Command := { argv := ["cat"], input := some "in", output := some "out" }
    let done := prepareUnder { output := { closing := some .interrupted } } c m d
    let failed := prepareUnder { input := { duplicating := some .interrupted } } c m d
    d.HasStandard ∧ done.2.2 = .ok () ∧ SetUp c m d done.1 done.2.1 ∧
      failed.2.2 = .error "ERRNO: Interrupted system call" ∧ failed.2.1.get? 3 = none ∧
      failed.2.1.get? 4 = some 0 ∧ failed.2.1.get? standardOutput = some 3 ∧
      failed.1.tree.contents ["home", "out"] = [] := by
  intro tree m d c
  have has : d.HasStandard := Descriptors.hasStandard_standard.set 4 0
  obtain ⟨sets, -, -⟩ :=
    prepareUnder_sets_up { output := { closing := some .interrupted } } c m d has
  obtain ⟨-, leaves, -⟩ :=
    prepareUnder_sets_up { input := { duplicating := some .interrupted } } c m d has
  dsimp only
  -- The results are named so that no step but a `decide` computes them.
  generalize done : prepareUnder { output := { closing := some .interrupted } } c m d = result at *
  generalize failed : prepareUnder { input := { duplicating := some .interrupted } } c m d =
    result' at *
  have succeeds : result.2.2 = .ok () := by
    rw [← done]
    decide +kernel
  have fails : result'.2.2 = .error "ERRNO: Interrupted system call" := by
    rw [← failed]
    decide +kernel
  have notSetUp := leaves _ fails
  have kept : result'.2.1.get? 4 = some 0 :=
    (notSetUp.others 4 (by decide) (by decide)).trans (by decide +kernel)
  refine ⟨has, succeeds, sets succeeds, fails,
    notSetUp.unopened 3 (by decide) (by decide +kernel), kept, ?_, ?_⟩ <;>
  · rw [← failed]
    decide +kernel

end Launch

end JobShell
