import JobShell.Startup
import JobShell.Proofs.CommandLines
import JobShell.Proofs.Console
import JobShell.Proofs.Documents

/-!
# Options in layers

Each option comes from the topmost layer that sets it: the command line, the file that it names, the
defaults. A file that gives no options is an error, whatever the command line gives besides, and the
command line cannot set the limits, so none of them is zero.

* `Options.ofFile_eq_ok_iff`, `Options.exists_ofFile_error_iff`: what a file gives, and when it
  fails.
* `options_of_layers`: where the options of a shell come from.
-/

namespace JobShell

variable {tree : FileTree} {cwd : Place} {path text : String} {s : Settings} {o : Options}

/-! ## Files -/

/-- The file that a path names can be read, and these are its contents. -/
def FileTree.Holds (tree : FileTree) (cwd : Place) (path : String) (bytes : Bytes) : Prop :=
  '\x00' ∉ path.toList ∧ ∃ place, tree.locate cwd path = .ok place ∧
    tree.isDirectory place = false ∧ tree.contents place = bytes

theorem FileTree.Holds.unique {bytes bytes' : Bytes} (held : tree.Holds cwd path bytes)
    (held' : tree.Holds cwd path bytes') : bytes = bytes' := by
  obtain ⟨-, place, found, -, rfl⟩ := held
  obtain ⟨-, _, found', -, rfl⟩ := held'
  rw [found] at found'
  cases found'
  rfl

/-- The contents of a file are read as a text exactly if they are its encoding. -/
theorem FileTree.readText_eq_ok_iff :
    tree.readText cwd path = .ok text ↔ tree.Holds cwd path (Text.encode text) := by
  unfold readText Holds
  split
  · rename_i nul
    simp_all
  · rename_i clean
    cases found : tree.locate cwd path with
    | error e => simp
    | ok place =>
      cases directory : tree.isDirectory place with
      | true => simp [directory]
      | false =>
        have readable : '\x00' ∉ path.toList := by simpa using clean
        have read : Text.decode? (tree.contents place) = some text ↔
            tree.contents place = Text.encode text := Text.decode?_eq_some_iff.trans eq_comm
        cases decoded : Text.decode? (tree.contents place) <;> simp_all

/-- A file that gives no options: it cannot be read, is no text, or is rejected. -/
inductive Options.Refuses (tree : FileTree) (cwd : Place) (path : String) : Prop
  | unreadable : (∀ bytes, ¬ tree.Holds cwd path bytes) → Refuses tree cwd path
  | notText {bytes : Bytes} : tree.Holds cwd path bytes → (∀ text, Text.encode text ≠ bytes) →
    Refuses tree cwd path
  | rejected {text : String} {e : ShellError} : tree.Holds cwd path (Text.encode text) →
    Options.ofDocument text = .error e → Refuses tree cwd path

namespace Options

/-- Which files give options. -/
theorem ofFile_eq_ok_iff : ofFile tree cwd path = .ok o ↔
    ∃ text, tree.Holds cwd path (Text.encode text) ∧ ofDocument text = .ok o := by
  unfold ofFile
  simp only [← FileTree.readText_eq_ok_iff]
  cases tree.readText cwd path <;> simp

/-- Every fault of a file is one of the configuration. -/
theorem ofFile_error {e : ShellError} (refused : ofFile tree cwd path = .error e) :
    ∃ detail, e = .config detail := by
  unfold ofFile at refused
  split at refused
  · cases refused
    exact ⟨_, rfl⟩
  · exact ofDocument_error refused

/-- A file fails to give options for one of three reasons. -/
theorem exists_ofFile_error_iff :
    (∃ e, ofFile tree cwd path = .error e) ↔ Refuses tree cwd path := by
  constructor
  · rintro ⟨e, refused⟩
    by_cases readable : ∃ bytes, tree.Holds cwd path bytes
    · obtain ⟨bytes, held⟩ := readable
      by_cases decodable : ∃ text, Text.encode text = bytes
      · obtain ⟨text, rfl⟩ := decodable
        rw [ofFile, FileTree.readText_eq_ok_iff.2 held] at refused
        exact .rejected held refused
      · exact .notText held (not_exists.1 decodable)
    · exact .unreadable (not_exists.1 readable)
  · rintro refuses
    cases given : ofFile tree cwd path with
    | error e => exact ⟨e, rfl⟩
    | ok o =>
      obtain ⟨text, held, accepted⟩ := ofFile_eq_ok_iff.1 given
      cases refuses with
      | unreadable unreadable => exact absurd held (unreadable _)
      | notText held' foreign => exact absurd (held.unique held') (foreign text)
      | @rejected text' e held' refused =>
        have same : text' = text := by
          have read := FileTree.readText_eq_ok_iff.2 held
          rw [FileTree.readText_eq_ok_iff.2 held'] at read
          exact Except.ok.inj read
        rw [same, accepted] at refused
        cases refused

end Options

/-! ## Layers -/

/-- What the file of a command line sets: nothing if there is none. -/
def FileSets (tree : FileTree) (cwd : Place) : Option String → Settings → Prop
  | none, s => s = {}
  | some path, s => ∃ text, tree.Holds cwd path (Text.encode text) ∧
      Settings.ofDocument text.toList = .ok s

namespace Arguments

variable {a : Arguments}

theorem base_error_iff : (∃ e, a.base tree cwd = .error e) ↔
    ∃ path, a.config = some path ∧ Options.Refuses tree cwd path := by
  unfold base
  cases a.config with
  | none => simp
  | some path => simpa using Options.exists_ofFile_error_iff

/-- The options below those of the command line come from the file, if one is named. -/
theorem base_eq_ok_iff : a.base tree cwd = .ok o ↔
    ∃ s, FileSets tree cwd a.config s ∧ s.complete = o ∧ o.isUsable = true := by
  unfold base FileSets
  cases a.config with
  | none =>
    constructor
    · rintro ⟨⟩
      exact ⟨{}, rfl, rfl, rfl⟩
    · rintro ⟨_, rfl, rfl, -⟩
      rfl
  | some path =>
    rw [Options.ofFile_eq_ok_iff]
    constructor
    · rintro ⟨text, held, accepted⟩
      obtain ⟨s, read, shape, usable⟩ := Options.ofDocument_eq_ok_iff.1 accepted
      exact ⟨s, ⟨text, held, read⟩, shape, usable⟩
    · rintro ⟨s, ⟨text, held, read⟩, shape, usable⟩
      exact ⟨text, held, Options.ofDocument_eq_ok_iff.2 ⟨s, read, shape, usable⟩⟩

/-- The options of the command line lie over them. -/
theorem options_eq_ok_iff : a.options tree cwd = .ok o ↔
    ∃ s, FileSets tree cwd a.config s ∧ a.override s.complete = o ∧ s.complete.isUsable = true := by
  have overridden : a.options tree cwd = .ok o ↔
      ∃ below, a.base tree cwd = .ok below ∧ a.override below = o := by
    unfold options
    cases a.base tree cwd <;> simp [Except.map]
  rw [overridden]
  constructor
  · rintro ⟨below, taken, shape⟩
    obtain ⟨s, file, rfl, usable⟩ := base_eq_ok_iff.1 taken
    exact ⟨s, file, shape, usable⟩
  · rintro ⟨s, file, shape, usable⟩
    exact ⟨s.complete, base_eq_ok_iff.2 ⟨s, file, rfl, usable⟩, shape⟩

/-- Whatever is wrong is reported as a fault of the configuration. -/
theorem options_error {e : ShellError} (failed : a.options tree cwd = .error e) :
    ∃ detail, e = .config detail := by
  unfold options base at failed
  split at failed
  · cases failed
  · cases given : Options.ofFile tree cwd _ with
    | error e' =>
      rw [given] at failed
      cases failed
      exact Options.ofFile_error given
    | ok o =>
      rw [given] at failed
      cases failed

end Arguments

/-- A command line that starts a shell gives options, in one way only and each at most once. The
prompt and the number of jobs are those of the command line if it gives them, else those of the file
if it sets them, else the defaults; the limits are those of the file or the defaults, and at least
1. This fails exactly if there is a file that cannot be read, is no text, or is rejected, whatever
else the command line gives. -/
theorem options_of_layers {arguments : List String} {a : Arguments}
    (accepted : CommandLine.parse arguments = .ok (.shell a)) (tree : FileTree) (cwd : Place) :
    (∃ given closed, arguments = CommandLine.written given closed ∧
      (∀ g ∈ given, g.IsReadable) ∧ (given.map Given.flag).Nodup) ∧
    ∀ given closed, arguments = CommandLine.written given closed →
      (∀ o, a.options tree cwd = .ok o →
        ∃ (file : Settings) (jobs : Option Nat),
          FileSets tree cwd (CommandLine.valueOf given .config) file ∧
          (CommandLine.valueOf given .maxJobs).map Decimal.size? = jobs.map some ∧
          o.prompt = ((CommandLine.valueOf given .prompt).or file.prompt).getD ": " ∧
          o.maxJobs = (jobs.or file.maxJobs).getD 10 ∧
          o.maxArgs = file.maxArgs.getD 512 ∧ o.maxLine = file.maxLine.getD 2048 ∧
          1 ≤ o.maxArgs ∧ 1 ≤ o.maxLine) ∧
      ((∃ e, a.options tree cwd = .error e) ↔
        ∃ path, CommandLine.valueOf given .config = some path ∧ Options.Refuses tree cwd path) ∧
      ∀ e, a.options tree cwd = .error e → ∃ detail, e = .config detail := by
  obtain ⟨given, closed, shape, readable, once, held⟩ := CommandLine.exists_given_of_parse accepted
  refine ⟨⟨given, closed, shape, readable, once⟩, fun given' closed' shape' => ?_⟩
  obtain rfl := CommandLine.written_injective (shape'.symm.trans shape)
  have config : a.config = CommandLine.valueOf given' .config := held .config
  have prompt : a.prompt = CommandLine.valueOf given' .prompt := held .prompt
  refine ⟨fun o taken => ?_, ?_, fun e failed => Arguments.options_error failed⟩
  · obtain ⟨s, file, rfl, usable⟩ := Arguments.options_eq_ok_iff.1 taken
    have limits : 1 ≤ s.complete.maxArgs ∧ 1 ≤ s.complete.maxLine := Options.isUsable_iff.1 usable
    refine ⟨s, a.maxJobs, config ▸ file, (held .maxJobs).symm, ?_, ?_, rfl, rfl, limits⟩
    · rw [← prompt]
      exact Option.getD_or.symm
    · exact Option.getD_or.symm
  · rw [← config, ← Arguments.base_error_iff]
    unfold Arguments.options
    cases a.base tree cwd <;> simp [Except.map]

/-- The command line gives the number of jobs, and the file the prompt too, where its limit is zero
in the second case. -/
theorem options_of_layers_over_files :
    let file (text : String) := FileTree.system.set ["c"] (.file 0o644 (Text.encode text))
    let low := file "[\"$ \", 3, 5]"
    let zero := file "[\"$ \", 3, 0]"
    let a : Arguments := { config := some "c", maxJobs := some 7 }
    CommandLine.parse ["--max-jobs", "007", "--config=c"] = .ok (.shell a) ∧
      (∃ o, a.options low [] = .ok o ∧ o.prompt = "$ " ∧ o.maxJobs = 7 ∧ o.maxArgs = 5 ∧
        o.maxLine = 2048) ∧
      ∃ detail, a.options zero [] = .error (.config detail) := by
  intro file low zero a
  have accepted : CommandLine.parse ["--max-jobs", "007", "--config=c"] = .ok (.shell a) := rfl
  let given : List Given := [⟨.maxJobs, "007", false⟩, ⟨.config, "c", true⟩]
  have shape : ["--max-jobs", "007", "--config=c"] = CommandLine.written given false := by decide
  have held (text : String) : (file text).Holds [] "c" (Text.encode text) :=
    ⟨by decide, ["c"], rfl, rfl, rfl⟩
  have read (s : Settings) (text : List Char)
      (taken : Settings.readElements OptionField.all true {} text = .ok (s, [']'])) :
      Settings.ofDocument ('[' :: text) = .ok s :=
    Settings.ofDocument_eq_ok_iff.2 ⟨[], (Settings.read_array rfl).2 ⟨[']'], taken, rfl⟩, rfl⟩
  refine ⟨accepted, ?_, ?_⟩
  · have taken := read ⟨"$ ", some 3, some 5, none⟩ "\"$ \", 3, 5]".toList (by cbv)
    have given : a.options low [] = .ok ⟨"$ ", 7, 5, 2048⟩ :=
      Arguments.options_eq_ok_iff.2 ⟨_, ⟨_, held _, taken⟩, rfl, by decide⟩
    exact ⟨_, given, rfl, rfl, rfl, rfl⟩
  · have taken := read ⟨"$ ", some 3, some 0, none⟩ "\"$ \", 3, 0]".toList (by cbv)
    have refused : Options.ofDocument "[\"$ \", 3, 0]" = .error (.config Options.zeroLimit) := by
      rw [Options.ofDocument]
      exact taken ▸ rfl
    obtain ⟨-, fails, config⟩ := (options_of_layers accepted zero []).2 given false shape
    obtain ⟨e, failed⟩ := fails.2 ⟨"c", rfl, .rejected (held _) refused⟩
    obtain ⟨detail, rfl⟩ := config e failed
    exact ⟨detail, failed⟩

end JobShell
