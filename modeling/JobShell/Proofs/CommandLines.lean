import JobShell.CommandLine
import Mathlib.Data.List.Basic

/-!
# Command lines

A command line that starts a shell gives options, each once, with a value behind an equals sign or
in the next argument, where it must not look like an option, and two dashes may end it. The order
makes no difference.

* `written_injective`: a command line gives its options in one way only.
* `Stepped`: all that one argument can do.
* `parse_eq_shell_iff_completes`: the command lines that start a shell.
* `exists_given_of_parse`: the options that they give, and what is held for each.
-/

namespace JobShell

/-- An option with its value, as a command line gives it: joined by an equals sign, or in an
argument of its own. -/
structure Given where
  flag : Flag
  value : String
  joined : Bool
  deriving DecidableEq, Repr

namespace Given

/-- The arguments that give an option. -/
def arguments (g : Given) : List String :=
  if g.joined then ["--" ++ g.flag.name ++ "=" ++ g.value] else ["--" ++ g.flag.name, g.value]

/-- A value in an argument of its own does not look like an option. -/
def IsReadable (g : Given) : Prop :=
  g.joined = false → g.value = "-" ∨ g.value.toList.head? ≠ some '-'

end Given

theorem Flag.name_of_ofName? {flag : Flag} {name : String} (named : ofName? name = some flag) :
    flag.name = name := by
  simpa using List.find?_some named

theorem Flag.ofName?_name (flag : Flag) : ofName? flag.name = some flag := by
  cases flag <;> decide

theorem Flag.name_injective {flag flag' : Flag} (same : flag.name = flag'.name) : flag = flag' := by
  have found := ofName?_name flag
  rw [same, ofName?_name flag'] at found
  exact (Option.some.inj found).symm

theorem Flag.name_ne_help (flag : Flag) : flag.name ≠ "help" := by
  cases flag <;> decide

namespace CommandLine

variable {p p' : Progress} {argument value : String} {arguments : List String} {a a' : Arguments}
variable {flag : Flag}

/-- The command line that gives options, with two dashes at its end or not. -/
def written (given : List Given) (closed : Bool) : List String :=
  given.flatMap Given.arguments ++ if closed then ["--"] else []

/-! ## Kinds of arguments -/

/-- A flag by itself, whose value is to come in the next argument. -/
theorem ofArgument_flag (flag : Flag) :
    Word.ofArgument ("--" ++ flag.name) = .long flag.name none := by
  cases flag <;> decide

theorem ofArgument_joined (flag : Flag) (value : String) :
    Word.ofArgument ("--" ++ flag.name ++ "=" ++ value) = .long flag.name (some value) := by
  unfold Word.ofArgument
  cases flag <;> simp [Flag.name, Word.ofLong]

theorem eq_of_ofArgument_escape (kind : Word.ofArgument argument = .escape) : argument = "--" := by
  unfold Word.ofArgument Word.ofLong at kind
  split at kind <;> try cases kind
  rename_i shape
  exact String.toList_inj.1 shape

/-- A long option is two dashes, its name, and its value behind an equals sign. -/
theorem eq_of_ofArgument_long {name : String} {value : Option String}
    (kind : Word.ofArgument argument = .long name value) :
    argument = "--" ++ name ++ value.elim "" ("=" ++ ·) := by
  unfold Word.ofArgument at kind
  split at kind <;> try cases kind
  rename_i cs _ shape
  apply String.toList_inj.1
  rw [shape]
  have whole : cs.takeWhile (· != '=') ++ cs.dropWhile (· != '=') = cs :=
    List.takeWhile_append_dropWhile
  have stop := List.head?_dropWhile_not (· != '=') cs
  cases behind : cs.dropWhile (· != '=') with
  | nil =>
    rw [behind] at whole
    simpa using whole.symm
  | cons x rest =>
    rw [behind] at whole stop
    obtain rfl : x = '=' := by simpa using stop
    simpa using whole.symm

/-- What is no option: a single dash, and what begins with none. -/
theorem ofArgument_eq_plain_iff :
    Word.ofArgument argument = .plain ↔ argument = "-" ∨ argument.toList.head? ≠ some '-' := by
  have dash : argument = "-" ↔ argument.toList = ['-'] := String.toList_inj.symm
  rw [dash]
  unfold Word.ofArgument Word.ofLong
  split <;> rename_i shape
  · simp [shape]
  · simp [shape]
  · simp [shape]
  · refine iff_of_true rfl ?_
    cases letters : argument.toList with
    | nil => exact .inr (by simp)
    | cons x rest =>
      cases rest with
      | nil => simpa using eq_or_ne x '-'
      | cons y rest =>
        refine .inr fun first => shape y rest ?_
        rw [letters, Option.some.inj first]

/-- Where one option ends does not depend on what comes behind it. -/
theorem Given.append_injective {g g' : Given} {rest rest' : List String}
    (same : g.arguments ++ rest = g'.arguments ++ rest') : g = g' ∧ rest = rest' := by
  obtain ⟨flag, value, joined⟩ := g
  obtain ⟨flag', value', joined'⟩ := g'
  have kinds := congrArg (fun l => l.head?.map Word.ofArgument) same
  cases joined <;> cases joined' <;>
    simp [Given.arguments, ofArgument_flag, ofArgument_joined] at kinds
  · obtain rfl := Flag.name_injective kinds
    simp_all [Given.arguments]
  · obtain rfl := Flag.name_injective kinds.1
    simp_all [Given.arguments]

theorem written_nil_ne {g : Given} {rest : List String} {closed : Bool} :
    written [] closed ≠ g.arguments ++ rest := by
  intro same
  have kinds := congrArg (fun l => l.head?.map Word.ofArgument) same
  obtain ⟨flag, value, joined⟩ := g
  have escape : Word.ofArgument "--" = .escape := by decide
  cases closed <;> cases joined <;>
    simp [written, Given.arguments, ofArgument_flag, ofArgument_joined, escape] at kinds

theorem written_cons (g : Given) (given : List Given) (closed : Bool) :
    written (g :: given) closed = g.arguments ++ written given closed := by
  simp [written]

/-- A command line gives its options in one way only. -/
theorem written_injective {given given' : List Given} {closed closed' : Bool}
    (same : written given closed = written given' closed') : given = given' := by
  induction given generalizing given' with
  | nil =>
    cases given' with
    | nil => rfl
    | cons g' given' =>
      rw [written_cons] at same
      exact absurd same written_nil_ne
  | cons g given ih =>
    rw [written_cons] at same
    cases given' with
    | nil => exact absurd same.symm written_nil_ne
    | cons g' given' =>
      rw [written_cons] at same
      obtain ⟨rfl, rest⟩ := Given.append_injective same
      rw [ih rest]

/-! ## One argument -/

/-- What an argument does: two dashes close the command line, an option comes with its value, or its
value is to come, or comes. An option settles the one before it. -/
inductive Stepped (p : Progress) : String → Progress → Prop
  | closed : Stepped p "--" { p with escaped := true }
  | joined {flag : Flag} {value : String} {a a' : Arguments} : p.settled = .ok a →
    a.give flag value = .ok a' → Stepped p ("--" ++ flag.name ++ "=" ++ value) { arguments := a' }
  | started {flag : Flag} {a : Arguments} : p.settled = .ok a →
    Stepped p ("--" ++ flag.name) { arguments := a, pending := some ⟨flag, none⟩ }
  | ended {flag : Flag} {value : String} : p.pending = some ⟨flag, none⟩ →
    (value = "-" ∨ value.toList.head? ≠ some '-') →
    Stepped p value { p with pending := some ⟨flag, some value⟩ }

theorem help_ne_some (p p' : Progress) : p.help ≠ .ok (some p') := by
  unfold Progress.help
  split <;> simp

/-- A long option that is taken has the name of one. -/
theorem exists_flag_of_long {name : String} {value : Option String}
    (taken : p.long name value = .ok (some p')) : ∃ flag : Flag, name = flag.name := by
  unfold Progress.long at taken
  split at taken
  · split at taken
    · cases taken
    · exact absurd taken (help_ne_some p p')
  · split at taken
    · cases taken
    · rename_i flag named
      exact ⟨flag, (Flag.name_of_ofName? named).symm⟩

/-- A flag by itself waits for its value, once the option before it is settled. -/
theorem long_none_iff : p.long flag.name none = .ok (some p') ↔
    ∃ a, p.settled = .ok a ∧ p' = { arguments := a, pending := some ⟨flag, none⟩ } := by
  rw [Progress.long, if_neg flag.name_ne_help, Flag.ofName?_name]
  unfold Progress.option
  cases p.settled <;> simp [Except.map, eq_comm]

theorem long_some_iff : p.long flag.name (some value) = .ok (some p') ↔
    ∃ a a', p.settled = .ok a ∧ a.give flag value = .ok a' ∧ p' = { arguments := a' } := by
  rw [Progress.long, if_neg flag.name_ne_help, Flag.ofName?_name]
  unfold Progress.option
  cases p.settled with
  | error e => simp [Except.map]
  | ok a => cases given : a.give flag value <;> simp [given, Except.map, eq_comm]

/-- An argument that does not ask for help is taken exactly if it does one of these. -/
theorem step_eq_some_iff (unescaped : p.escaped = false) :
    p.step argument = .ok (some p') ↔ Stepped p argument p' := by
  unfold Progress.step
  rw [if_neg (by simp [unescaped])]
  constructor
  · intro taken
    cases kind : Word.ofArgument argument with
    | escape =>
      rw [kind] at taken
      obtain rfl := eq_of_ofArgument_escape kind
      cases taken
      exact .closed
    | long name value =>
      rw [kind] at taken
      dsimp only at taken
      obtain ⟨flag, rfl⟩ := exists_flag_of_long taken
      rw [eq_of_ofArgument_long kind]
      cases value with
      | none =>
        obtain ⟨a, settled, rfl⟩ := long_none_iff.1 taken
        simpa using Stepped.started settled
      | some value =>
        obtain ⟨a, a', settled, given, rfl⟩ := long_some_iff.1 taken
        simpa [String.append_assoc] using Stepped.joined settled given
    | short letter =>
      rw [kind] at taken
      dsimp only at taken
      split at taken
      · exact absurd taken (help_ne_some p p')
      · cases taken
    | plain =>
      rw [kind] at taken
      dsimp only at taken
      split at taken
      · rename_i flag waiting
        cases taken
        exact .ended waiting (ofArgument_eq_plain_iff.1 kind)
      · cases taken
  · intro stepped
    cases stepped with
    | closed => rfl
    | joined settled given =>
      rw [ofArgument_joined]
      exact long_some_iff.2 ⟨_, _, settled, given, rfl⟩
    | started settled =>
      rw [ofArgument_flag]
      exact long_none_iff.2 ⟨_, settled, rfl⟩
    | ended waiting plain =>
      rw [ofArgument_eq_plain_iff.2 plain]
      dsimp only
      rw [waiting]

/-! ## Whole command lines -/

/-- Arguments that are supplied from some on by the rest of a command line. -/
inductive Supplies : Arguments → List String → Arguments → Prop
  | done {a : Arguments} : Supplies a [] a
  | closed {a : Arguments} : Supplies a ["--"] a
  | joined {flag : Flag} {value : String} {a a' b : Arguments} {rest : List String} :
    a.give flag value = .ok a' → Supplies a' rest b →
    Supplies a (("--" ++ flag.name ++ "=" ++ value) :: rest) b
  | apart {flag : Flag} {value : String} {a a' b : Arguments} {rest : List String} :
    (value = "-" ∨ value.toList.head? ≠ some '-') → a.give flag value = .ok a' →
    Supplies a' rest b → Supplies a (("--" ++ flag.name) :: value :: rest) b

/-- The rest of a command line supplies what is missing: the value of an option that waits for it,
and options. -/
def Completes (p : Progress) (arguments : List String) (b : Arguments) : Prop :=
  match p.pending with
  | some ⟨flag, none⟩ => ∃ value rest a, arguments = value :: rest ∧
      (value = "-" ∨ value.toList.head? ≠ some '-') ∧ p.arguments.give flag value = .ok a ∧
      Supplies a rest b
  | _ => ∃ a, p.settled = .ok a ∧ Supplies a arguments b

/-- Where nothing is pending, only what is still to come matters. -/
theorem completes_of_settled (settled : p.settled = .ok a) :
    Completes p arguments a' ↔ Supplies a arguments a' := by
  unfold Completes
  split
  · rename_i flag waiting
    rw [Progress.settled, waiting] at settled
    cases settled
  · rw [settled]
    simp

theorem parse_of_escaped (escaped : p.escaped = true) :
    p.parse arguments = .ok (.shell a) ↔ arguments = [] ∧ p.settled = .ok a := by
  cases arguments with
  | nil =>
    rw [Progress.parse]
    cases p.settled <;> simp [Except.map]
  | cons argument arguments =>
    have refused : p.step argument = .error .unknownArgument := by
      rw [Progress.step, if_pos escaped]
    rw [Progress.parse, refused]
    simp

theorem parse_cons_iff : p.parse (argument :: arguments) = .ok (.shell a) ↔
    ∃ p', p.step argument = .ok (some p') ∧ p'.parse arguments = .ok (.shell a) := by
  rw [Progress.parse]
  cases p.step argument with
  | error e => simp
  | ok next => cases next <;> simp

/-- The rest of a command line leads to a shell exactly if it supplies what is missing. -/
theorem parse_eq_shell_iff_completes (unescaped : p.escaped = false) :
    p.parse arguments = .ok (.shell a) ↔ Completes p arguments a := by
  -- The induction is on the arguments; a flag that waits for its value is carried along in `p`.
  induction arguments generalizing p with
  | nil =>
    rw [Progress.parse]
    unfold Completes
    split
    · rename_i flag waiting
      rw [Progress.settled, waiting]
      simp [Except.map]
    · cases settled : p.settled with
      | error e => simp [Except.map]
      | ok a₀ =>
        constructor
        · rintro ⟨⟩
          exact ⟨_, rfl, .done⟩
        · rintro ⟨_, ⟨⟩, supplied⟩
          cases supplied
          rfl
  | cons argument arguments ih =>
    rw [parse_cons_iff]
    constructor
    · rintro ⟨p', stepped, rest⟩
      cases (step_eq_some_iff unescaped).1 stepped with
      | closed =>
        obtain ⟨rfl, settled⟩ := (parse_of_escaped rfl).1 rest
        exact (completes_of_settled (p := p) settled).2 .closed
      | joined settled given =>
        have supplied := (completes_of_settled rfl).1 ((ih rfl).1 rest)
        exact (completes_of_settled settled).2 (.joined given supplied)
      | started settled =>
        obtain ⟨value, rest, a', rfl, plain, given, supplied⟩ := (ih rfl).1 rest
        exact (completes_of_settled settled).2 (.apart plain given supplied)
      | @ended flag _ waiting plain =>
        obtain ⟨a', given, supplied⟩ :=
          (ih (p := ⟨p.arguments, some ⟨flag, some argument⟩, p.escaped⟩) unescaped).1 rest
        unfold Completes
        rw [waiting]
        exact ⟨_, _, a', rfl, plain, given, supplied⟩
    · intro completes
      unfold Completes at completes
      split at completes
      · rename_i flag waiting
        obtain ⟨value, rest, a', same, plain, given, supplied⟩ := completes
        cases same
        exact ⟨_, (step_eq_some_iff unescaped).2 (.ended waiting plain),
          (ih (p := ⟨p.arguments, some ⟨flag, some argument⟩, p.escaped⟩) unescaped).2
            ⟨a', given, supplied⟩⟩
      · obtain ⟨a₀, settled, supplied⟩ := completes
        cases supplied with
        | closed =>
          exact ⟨_, (step_eq_some_iff unescaped).2 .closed,
            (parse_of_escaped rfl).2 ⟨rfl, settled⟩⟩
        | joined given supplied =>
          exact ⟨_, (step_eq_some_iff unescaped).2 (.joined settled given),
            (ih rfl).2 ((completes_of_settled rfl).2 supplied)⟩
        | apart plain given supplied =>
          exact ⟨_, (step_eq_some_iff unescaped).2 (.started settled),
            (ih rfl).2 ⟨_, _, _, rfl, plain, given, supplied⟩⟩

/-! ## The values that are given -/

/-- The value that is given for an option. -/
def valueOf (given : List Given) (flag : Flag) : Option String :=
  (given.find? fun g => g.flag = flag).map Given.value

/-- What is held for an option is what the text says, or nothing without a text. -/
def Has (a : Arguments) : Flag → Option String → Prop
  | .config, value? => a.config = value?
  | .prompt, value? => a.prompt = value?
  | .maxJobs, value? => a.maxJobs.map some = value?.map Decimal.size?

/-- A flag has not been given if it has no value yet. -/
theorem gives_eq_false_iff : a.gives flag = false ↔ Has a flag none := by
  cases flag <;> simp [Arguments.gives, Has]

theorem not_has_both (missing : Has a flag none) : ¬ Has a flag (some value) := by
  cases flag <;> simp_all [Has]

/-- The value of a flag is the first that is given for it. -/
theorem valueOf_cons (g : Given) (given : List Given) (flag : Flag) :
    valueOf (g :: given) flag = if g.flag = flag then some g.value else valueOf given flag := by
  unfold valueOf
  rw [List.find?_cons]
  by_cases same : g.flag = flag <;> simp [same]

theorem valueOf_eq_none_iff {given : List Given} :
    valueOf given flag = none ↔ flag ∉ given.map Given.flag := by
  simp [valueOf]

/-- An option that is given has not been given before, and the others stay as they are. -/
theorem has_of_give (given : a.give flag value = .ok a') : Has a flag none ∧
    Has a' flag (some value) ∧
      ∀ other, other ≠ flag → ∀ value?, Has a' other value? ↔ Has a other value? := by
  unfold Arguments.give at given
  split at given
  · cases given
  · rename_i fresh
    refine ⟨gives_eq_false_iff.1 (eq_false_of_ne_true fresh), ?_⟩
    cases flag with
    | config =>
      dsimp only at given
      split at given <;> cases given
      refine ⟨rfl, fun other apart value? => ?_⟩
      cases other <;> first | exact absurd rfl apart | exact Iff.rfl
    | prompt =>
      cases given
      refine ⟨rfl, fun other apart value? => ?_⟩
      cases other <;> first | exact absurd rfl apart | exact Iff.rfl
    | maxJobs =>
      dsimp only at given
      split at given <;> cases given
      rename_i n read
      refine ⟨congrArg some read.symm, fun other apart value? => ?_⟩
      cases other <;> first | exact absurd rfl apart | exact Iff.rfl

/-- What is held for an option at the end is what is given for it, for the first time, or what was
held before if it is not given. -/
def Keeps (a a' : Arguments) (given : List Given) (flag : Flag) : Prop :=
  match valueOf given flag with
  | some value => Has a flag none ∧ Has a' flag (some value)
  | none => ∀ value?, Has a' flag value? ↔ Has a flag value?

/-- An option is given once: what comes behind it does not change it. -/
theorem Keeps.cons {g : Given} {given : List Given} {b : Arguments}
    (taken : a.give g.flag g.value = .ok a') (keeps : ∀ flag, Keeps a' b given flag) :
    g.flag ∉ given.map Given.flag ∧ ∀ flag, Keeps a b (g :: given) flag := by
  obtain ⟨fresh, held, others⟩ := has_of_give taken
  have once : g.flag ∉ given.map Given.flag := by
    intro again
    have kept := keeps g.flag
    unfold Keeps at kept
    split at kept
    · exact not_has_both kept.1 held
    · rename_i missing
      exact valueOf_eq_none_iff.1 missing again
  refine ⟨once, fun flag => ?_⟩
  have kept := keeps flag
  unfold Keeps at kept ⊢
  rw [valueOf_cons]
  by_cases same : g.flag = flag
  · subst same
    rw [valueOf_eq_none_iff.2 once] at kept
    rw [if_pos rfl]
    exact ⟨fresh, (kept _).2 held⟩
  · rw [if_neg same]
    have alike := others flag (Ne.symm same)
    split at kept
    · exact ⟨(alike _).1 kept.1, kept.2⟩
    · exact fun value? => (kept value?).trans (alike value?)

/-- Each option is given at most once, and the values that are given are held. -/
theorem Supplies.exists_given (supplied : Supplies a arguments a') : ∃ given closed,
    arguments = written given closed ∧ (∀ g ∈ given, g.IsReadable) ∧
      (given.map Given.flag).Nodup ∧ ∀ flag, Keeps a a' given flag := by
  induction supplied with
  | done => exact ⟨[], false, rfl, by simp, by simp, fun flag value? => Iff.rfl⟩
  | closed => exact ⟨[], true, rfl, by simp, by simp, fun flag value? => Iff.rfl⟩
  | @joined flag value _ _ _ _ taken _ ih =>
    obtain ⟨given, closed, rfl, readable, nodup, keeps⟩ := ih
    obtain ⟨once, keeps⟩ := Keeps.cons (g := ⟨flag, value, true⟩) taken keeps
    refine ⟨⟨flag, value, true⟩ :: given, closed, rfl, ?_, List.nodup_cons.2 ⟨once, nodup⟩, keeps⟩
    exact List.forall_mem_cons.2 ⟨nofun, readable⟩
  | @apart flag value _ _ _ _ plain taken _ ih =>
    obtain ⟨given, closed, rfl, readable, nodup, keeps⟩ := ih
    obtain ⟨once, keeps⟩ := Keeps.cons (g := ⟨flag, value, false⟩) taken keeps
    refine ⟨⟨flag, value, false⟩ :: given, closed, rfl, ?_, List.nodup_cons.2 ⟨once, nodup⟩, keeps⟩
    exact List.forall_mem_cons.2 ⟨fun _ => plain, readable⟩

/-- A command line that starts a shell gives options, each at most once, and their values are held.
-/
theorem exists_given_of_parse (accepted : parse arguments = .ok (.shell a)) : ∃ given closed,
    arguments = written given closed ∧ (∀ g ∈ given, g.IsReadable) ∧
      (given.map Given.flag).Nodup ∧ ∀ flag, Has a flag (valueOf given flag) := by
  obtain ⟨_, ⟨⟩, supplied⟩ := (parse_eq_shell_iff_completes (p := {}) rfl).1 accepted
  obtain ⟨given, closed, shape, readable, nodup, keeps⟩ := supplied.exists_given
  refine ⟨given, closed, shape, readable, nodup, fun flag => ?_⟩
  have kept := keeps flag
  unfold Keeps at kept
  split at kept <;> rename_i value <;> rw [value]
  · exact kept.2
  · exact (kept none).2 (by cases flag <;> rfl)

end CommandLine

end JobShell
