import JobShell.Proofs.Streams

/-!
# The null device

Children make files and change what is in them, but no child removes a directory or a device. So a
null device that is there when the shell starts is there for ever, and output can always be sent to
it.

* `Reaches.fixed`: what is no file stays.
* `HasNullDevice.locate`, `HasNullDevice.locateForWriting`: the null device can be opened from anywhere.
-/

namespace JobShell

/-! ## What is no file -/

namespace FileTree

variable {t t' t'' : FileTree} {place other cwd : Place} {node : Node}

/-- What is replaced at one place is not seen at another. -/
theorem lookup_replace_of_ne (nodes : List (Place × Node)) (apart : other ≠ place) :
    (nodes.map fun e => if e.1 = place then (place, node) else e).lookup other =
      nodes.lookup other := by
  have skip : (other == place) = false := beq_false_of_ne apart
  induction nodes with
  | nil => rfl
  | cons e nodes ih =>
    obtain ⟨found, old⟩ := e
    rw [List.map_cons]
    by_cases here : found = place
    · subst here
      rw [if_pos rfl, List.lookup_cons, List.lookup_cons, skip]
      exact ih
    · rw [if_neg here, List.lookup_cons, List.lookup_cons, ih]

theorem node?_set_of_ne (t : FileTree) (node : Node) (apart : other ≠ place) :
    (t.set place node).node? other = t.node? other := by
  have found : (t.set place node).nodes.lookup other = t.nodes.lookup other := by
    unfold set
    split
    · exact lookup_replace_of_ne t.nodes apart
    · rw [List.lookup_append, List.lookup_cons, beq_false_of_ne apart]
      simp
  rw [node?, node?, found]

/-- Every directory and every device of `t` stands in `t'` as well. -/
def Fixed (t t' : FileTree) : Prop :=
  ∀ place node, (∀ mode data, node ≠ .file mode data) → t.node? place = some node →
    t'.node? place = some node

theorem Fixed.refl (t : FileTree) : t.Fixed t :=
  fun _ _ _ there => there

theorem Fixed.trans (first : t.Fixed t') (second : t'.Fixed t'') : t.Fixed t'' :=
  fun place node irregular there => second place node irregular (first place node irregular there)

theorem fixed_set
    (regular : ∀ node, t.node? place = some node → ∃ mode data, node = .file mode data) :
    t.Fixed (t.set place node) := by
  intro other old irregular there
  by_cases same : other = place
  · subst same
    obtain ⟨mode, data, file⟩ := regular old there
    exact absurd file (irregular mode data)
  · rw [node?_set_of_ne t node same, there]

/-- To empty a file makes no other kind of node. -/
theorem fixed_truncate (t : FileTree) (place : Place) : t.Fixed (t.truncate place) := by
  unfold truncate
  split <;> rename_i there
  · refine fixed_set fun node found => ?_
    rw [there] at found
    cases found
    exact ⟨_, _, rfl⟩
  · exact .refl t
  · refine fixed_set fun node found => ?_
    rw [there] at found
    cases found

theorem fixed_setContents (t : FileTree) (place : Place) (data : Bytes) :
    t.Fixed (t.setContents place data) := by
  unfold setContents
  split <;> rename_i there
  · refine fixed_set fun node found => ?_
    rw [there] at found
    cases found
    exact ⟨_, _, rfl⟩
  · exact .refl t

end FileTree

namespace Machine

theorem fixed_read (m : Machine) (id : OpenId) (limit : Option Nat) :
    m.tree.Fixed (m.read id limit).1.tree := by
  unfold read
  split
  · exact .refl _
  · split
    · split <;> exact .refl _
    · exact .refl _

theorem fixed_write (m : Machine) (id : OpenId) (data : Bytes) :
    m.tree.Fixed (m.write id data).1.tree := by
  unfold write
  split
  · exact .refl _
  · split
    · split
      · exact m.tree.fixed_setContents _ _
      · exact .refl _
      · exact .refl _
    · exact .refl _

/-- No use of files changes what is no regular file. -/
theorem acrossUse_fixed : AcrossUse fun m m' => m.tree.Fixed m'.tree where
  refl m := .refl m.tree
  trans first second := first.trans second
  openRead m path := by
    obtain ⟨more, frame⟩ := m.openRead_frame path
    rw [frame]
    exact .refl m.tree
  openWrite m path := by
    rw [openWrite_eq]
    split
    · exact .refl m.tree
    · exact m.tree.fixed_truncate _
  read := fixed_read
  write := fixed_write

end Machine

namespace Session

theorem lasting_fixed : Lasting fun m m' => m.tree.Fixed m'.tree :=
  { Machine.acrossUse_fixed with aside := fun tree _ => tree ▸ .refl _ }

/-- No directory and no device is ever removed. -/
theorem Reaches.fixed {env : Environment} {start s : Session} (reach : Reaches env start s) :
    start.machine.tree.Fixed s.machine.tree :=
  (reach.carries lasting_fixed).machine

end Session

/-! ## The device -/

namespace FileTree

/-- The null device is where its path leads. -/
structure HasNullDevice (t : FileTree) : Prop where
  directory : t.node? ["dev"] = some .directory
  device : t.node? ["dev", "null"] = some .nullDevice

/-- The tree that a session starts with has the device. -/
theorem hasNullDevice_system : system.HasNullDevice := by
  constructor <;> decide +kernel

variable {t t' : FileTree}

theorem HasNullDevice.fixed (has : t.HasNullDevice) (fixed : t.Fixed t') : t'.HasNullDevice :=
  ⟨fixed _ _ (by simp) has.directory, fixed _ _ (by simp) has.device⟩

theorem checkPath_nullDevicePath : checkPath Launch.nullDevicePath = .ok () := by decide +kernel

theorem names_nullDevicePath : names Launch.nullDevicePath = ["dev", "null"] := by decide +kernel

theorem origin_nullDevicePath (cwd : Place) : origin cwd Launch.nullDevicePath = [] := rfl

theorem endsInSlash_nullDevicePath : endsInSlash Launch.nullDevicePath = false := by decide +kernel

theorem HasNullDevice.enter_dev (has : t.HasNullDevice) : t.enter [] "dev" = .ok ["dev"] := by
  have root : t.isDirectory [] = true := rfl
  have short : ¬ maxName < "dev".utf8ByteSize := by decide +kernel
  simp [enter, root, has.directory, short]

/-- The path leads from the root through a directory to the device. -/
theorem HasNullDevice.enter_null (has : t.HasNullDevice) :
    t.enter ["dev"] "null" = .ok ["dev", "null"] := by
  have directory : t.isDirectory ["dev"] = true := by simp [isDirectory, has.directory]
  have short : ¬ maxName < "null".utf8ByteSize := by decide +kernel
  simp [enter, directory, has.device, short]

/-- The null device can be opened for reading, whatever the working directory. -/
theorem HasNullDevice.locate (has : t.HasNullDevice) (cwd : Place) :
    t.locate cwd Launch.nullDevicePath = .ok ["dev", "null"] := by
  have walked : t.walk [] ["dev", "null"] = .ok ["dev", "null"] := by
    rw [walk, List.foldlM_cons, has.enter_dev]
    change (t.enter ["dev"] "null" >>= fun here => [].foldlM t.enter here) = _
    rw [has.enter_null]
    rfl
  unfold FileTree.locate
  simp [checkPath_nullDevicePath, names_nullDevicePath, origin_nullDevicePath,
    endsInSlash_nullDevicePath, walked, bind, Except.bind, pure, Except.pure]

/-- The null device can be opened for writing, whatever the working directory. -/
theorem HasNullDevice.locateForWriting (has : t.HasNullDevice) (cwd : Place) :
    t.locateForWriting cwd Launch.nullDevicePath = .ok ["dev", "null"] := by
  have walked : t.walk [] ["dev"] = .ok ["dev"] := by
    rw [walk, List.foldlM_cons, has.enter_dev]
    rfl
  have directory : t.isDirectory ["dev"] = true := by simp [isDirectory, has.directory]
  have device : t.isDirectory ["dev", "null"] = false := by simp [isDirectory, has.device]
  have short : ¬ maxName < "null".utf8ByteSize := by decide +kernel
  unfold FileTree.locateForWriting
  simp [checkPath_nullDevicePath, names_nullDevicePath, origin_nullDevicePath,
    endsInSlash_nullDevicePath, walked, directory, device, short, bind, Except.bind, pure,
    Except.pure]

end FileTree

end JobShell
