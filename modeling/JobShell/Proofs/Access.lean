import JobShell.Launch

/-!
# The use of files

Whatever is read, written and redirected comes down to four operations on the machine: a file is
opened for reading or for writing, or an open file is read or written. A relation that holds across
each of them (`Machine.AcrossUse`) holds across the rest. All that a child does besides is to send
signals to the shell (`Session.AcrossRun`).

* `AcrossUse.readFrom`, `AcrossUse.writeTo`: what is done by descriptor.
* `AcrossUse.prepare`: the setting up of a child.
* `AcrossRun.runChild`: the whole of what a child does.
* `Machine.acrossUse_files`: files, open files and what has been written change, and nothing else.
-/

namespace JobShell

namespace Machine

/-- A relation between a machine and a later one that holds whenever only files have been used. -/
structure AcrossUse (R : Machine → Machine → Prop) : Prop where
  refl (m : Machine) : R m m
  trans {m m' m'' : Machine} : R m m' → R m' m'' → R m m''
  openRead (m : Machine) (path : String) : R m (m.openRead path).1
  openWrite (m : Machine) (path : String) : R m (m.openWrite path).1
  read (m : Machine) (id : OpenId) (limit : Option Nat) : R m (m.read id limit).1
  write (m : Machine) (id : OpenId) (data : Bytes) : R m (m.write id data).1

variable {R : Machine → Machine → Prop} (across : AcrossUse R) {opener : Handle.Opener}

include across

/-- A read through a descriptor is a use of files, if the descriptor is open. -/
theorem AcrossUse.readFrom (m : Machine) (d : Descriptors) (n : Nat) (limit : Option Nat) :
    R m (m.readFrom d n limit).1 := by
  unfold Machine.readFrom
  split
  · exact across.read m _ limit
  · exact across.refl m

theorem AcrossUse.writeTo (m : Machine) (d : Descriptors) (n : Nat) (data : Bytes) :
    R m (m.writeTo d n data).1 := by
  unfold Machine.writeTo
  split
  · exact across.write m _ data
  · exact across.refl m

omit across in
theorem across_redirect (opens : ∀ m path, R m (opener m path).1) (purpose : String) (target : Nat)
    (m : Machine) (d : Descriptors) (path : String) :
    R m (Launch.redirect opener purpose target m d path).1 := by
  have opened : R m (Handle.openWith opener m d path).1 := by
    have opened := opens m path
    unfold Handle.openWith
    split <;> rename_i result <;> rw [result] at opened <;> exact opened
  unfold Launch.redirect
  split <;> rename_i result <;> rw [result] at opened
  · exact opened
  · split <;> exact opened

theorem AcrossUse.prepare (c : Command) (m : Machine) (d : Descriptors) :
    R m (Launch.prepare c m d).1 := by
  have output : R m (Launch.redirectOutput c m d).1 := by
    unfold Launch.redirectOutput
    split
    · exact across_redirect across.openWrite _ _ m d _
    · exact across.refl m
  have input : ∀ m d, R m (Launch.redirectInput c m d).1 := by
    intro m d
    unfold Launch.redirectInput
    split
    · exact across_redirect across.openRead _ _ m d _
    · exact across.refl m
  unfold Launch.prepare
  split <;> rename_i result <;> rw [result] at output
  · exact output
  · exact across.trans output (input _ _)

omit across

/-! ## What else changes -/

variable {m m' : Machine}

theorem files_with (m : Machine) (tree : FileTree) (opened : List OpenFile) :
    m.Files { m with tree, opened } :=
  ⟨tree, opened, [], by simp, by simp⟩

theorem Files.refl (m : Machine) : m.Files m :=
  files_with m m.tree m.opened

theorem Files.trans {m'' : Machine} (first : m.Files m') (second : m'.Files m'') :
    m.Files m'' := by
  obtain ⟨tree, opened, written, rfl, all⟩ := first
  obtain ⟨tree', opened', more, rfl, rest⟩ := second
  refine ⟨tree', opened', written ++ more, by simp, fun e member => ?_⟩
  exact (List.mem_append.1 member).elim (all e) (rest e)

/-- To open a file changes the machine as to its files only. -/
theorem files_openRead (m : Machine) (path : String) : m.Files (m.openRead path).1 := by
  unfold openRead
  split
  · exact .refl m
  · exact files_with m m.tree _

theorem files_openWrite (m : Machine) (path : String) : m.Files (m.openWrite path).1 := by
  unfold openWrite
  split
  · exact .refl m
  · exact files_with m _ _

theorem files_read (m : Machine) (id : OpenId) (limit : Option Nat) :
    m.Files (m.read id limit).1 := by
  unfold read
  split
  · exact .refl m
  · split
    · split
      · exact .refl m
      · exact files_with m m.tree _
    · exact .refl m

theorem files_write (m : Machine) (id : OpenId) (data : Bytes) : m.Files (m.write id data).1 := by
  unfold write
  split
  · exact .refl m
  · split
    · split
      · exact files_with m _ _
      · exact ⟨m.tree, m.opened, [.written _ data], rfl, by simp [Entry.isWritten]⟩
      · exact .refl m
    · exact .refl m

/-- No use of files changes anything but files, and what has been written. -/
theorem acrossUse_files : AcrossUse Files :=
  ⟨.refl, .trans, files_openRead, files_openWrite, files_read, files_write⟩

/-- To read is to say nothing. -/
theorem transcript_readFrom (m : Machine) (d : Descriptors) (n : Nat) (limit : Option Nat) :
    (m.readFrom d n limit).1.transcript = m.transcript := by
  unfold readFrom
  split
  · unfold read
    split
    · rfl
    · split
      · split <;> rfl
      · rfl
  · rfl

end Machine

/-! ## What a child does -/

namespace Session

/-- A relation between a session and a later one that holds whenever a child has done something:
when it has used files, of which `M` holds, and when it has sent the shell a signal. -/
structure AcrossRun (M : Machine → Machine → Prop) (R : Session → Session → Prop) : Prop where
  use : Machine.AcrossUse M
  refl (s : Session) : R s s
  trans {s s' s'' : Session} : R s s' → R s' s'' → R s s''
  machine {s : Session} {m : Machine} : M s.machine m → R s { s with machine := m }
  receive (s : Session) (n : ShellSignal) : R s (s.receive n)

variable {M : Machine → Machine → Prop} {R : Session → Session → Prop}

/-- A program in a child uses files and sends signals, by induction on the program. -/
theorem AcrossRun.run (across : AcrossRun M R) (d : Descriptors) (own : Dispositions) (p : Program)
    (s : Session) : R s (Launch.run d own p s).1 := by
  induction p generalizing s with
  | exit code => exact across.refl s
  | hold => exact across.refl s
  | write n data next ih =>
    exact across.trans (across.machine (across.use.writeTo s.machine d n data)) (ih _)
  | readAll next ih =>
    exact across.trans (across.machine (across.use.readFrom s.machine d _ none)) (ih _ _)
  | signalSelf n next ih =>
    rw [Launch.run]
    split
    · exact ih s
    · exact across.refl s
    · exact across.refl s
  | signalShell n next ih => exact across.trans (across.receive s n) (ih _)

theorem AcrossRun.runChild (across : AcrossRun M R) (env : Environment) (c : Command)
    (argv : List String) (s : Session) : R s (Launch.runChild env c argv s).1 :=
  across.trans (across.machine (across.use.prepare c s.machine s.descriptors)) (across.run _ _ _ _)

end Session

end JobShell
