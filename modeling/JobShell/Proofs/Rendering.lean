import JobShell.Proofs.Expansion
import JobShell.Proofs.Parts
import JobShell.Proofs.Words

/-!
# Lines for commands

A line for a command lists its arguments, and a `&` behind them if the command is for the background.
Redirections stand anywhere among them, and only the last one of each kind has to be the command's.
Parsing such a line gives the command back.

* `addTokens_words`: what becomes of the parts of a line that are all kept.
* `parse_of_lists`: parsing undoes the writing of a command.
-/

namespace JobShell.Command

variable {maxArgs : Nat} {c : Command} {line : String} {parts : List Part}

/-! ## Writing commands -/

/-- The arguments of a command with the marker behind them if it is for the background. -/
def written (c : Command) : List String :=
  c.argv ++ if c.background then [backgroundMarker] else []

/-- The parts make up the command: its arguments in order, and redirections of which the last ones are
the command's. -/
structure Lists (parts : List Part) (c : Command) : Prop where
  arguments : parts.filterMap Part.argument? = c.written
  input : (parts.filterMap Part.input?).getLast? = c.input
  output : (parts.filterMap Part.output?).getLast? = c.output

/-- A command can be written. No argument is a redirection marker, the first one does not start a
comment, and the last one is no background marker, unless the command's own comes behind it. The
arguments are within the limit, the marker among them, and expansion finds no pair of dollar signs. -/
structure Writable (maxArgs : Nat) (c : Command) : Prop where
  plain : ∀ word ∈ c.argv, word ≠ inputMarker ∧ word ≠ outputMarker
  spoken : ∀ word ∈ c.argv.head?, startsComment word = false
  unmarked : c.background = false → c.argv.getLast? ≠ some backgroundMarker
  room : c.written.length ≤ maxArgs
  arguments : ∀ word ∈ c.argv, ¬ Text.Paired word.toList
  input : ∀ path ∈ c.input, ¬ Text.Paired path.toList
  output : ∀ path ∈ c.output, ¬ Text.Paired path.toList

/-- What holds of the marker and of each argument holds of each argument that is written. -/
theorem forall_mem_written {P : String → Prop} (own : ∀ word ∈ c.argv, P word)
    (marker : P backgroundMarker) : ∀ word ∈ c.written, P word := by
  intro word member
  rcases List.mem_append.1 member with argument | behind
  · exact own word argument
  · split at behind
    · rwa [List.mem_singleton.1 behind]
    · cases behind

/-- What holds of the marker and of the first argument holds of the first one that is written. -/
theorem forall_mem_head?_written {P : String → Prop} (own : ∀ word ∈ c.argv.head?, P word)
    (marker : P backgroundMarker) : ∀ word ∈ c.written.head?, P word := by
  unfold written
  cases argv : c.argv with
  | nil => cases c.background <;> simp [marker]
  | cons first rest => simpa [argv] using own

theorem takeMarker_written (unmarked : c.background = false →
    c.argv.getLast? ≠ some backgroundMarker) :
    takeMarker false { c with argv := c.written, background := false } = c := by
  obtain ⟨argv, input, output, background⟩ := c
  cases background with
  | true => simp [takeMarker, written]
  | false => simpa [takeMarker, written] using unmarked rfl

/-! ## Parsing parts -/

/-- With room for all of them, the arguments of the parts are added, and the last redirection of each
kind counts. -/
theorem addTokens_words
    (plain : ∀ word ∈ parts.filterMap Part.argument?, word ≠ inputMarker ∧ word ≠ outputMarker)
    (room : c.argv.length + (parts.filterMap Part.argument?).length ≤ maxArgs) :
    addTokens maxArgs c (parts.flatMap Part.words) = .ok
      { c with
        argv := c.argv ++ parts.filterMap Part.argument?
        input := (parts.filterMap Part.input?).getLast?.or c.input
        output := (parts.filterMap Part.output?).getLast?.or c.output } := by
  have spoken : Plain parts := fun word member => not_or.2 (plain word member)
  have all : (parts.filterMap Part.argument?).take (maxArgs - c.argv.length) =
      parts.filterMap Part.argument? := List.take_of_length_le (by omega)
  rw [addTokens_flatMap_words spoken, withParts, all]

/-- Expansion changes overridden redirections only. -/
theorem Lists.map_expandPid (lists : Lists parts c) (writable : Writable maxArgs c) (pid : Int) :
    Lists (parts.map (Part.map (Text.expandPid pid))) c where
  arguments := by
    have fixed : ∀ word ∈ c.written, Text.expandPid pid word = word :=
      forall_mem_written (fun word member =>
        Text.expandPid_of_unpaired (writable.arguments word member) pid)
        (Text.expandPid_of_unpaired (by decide) pid)
    rw [Part.filterMap_argument?_map, lists.arguments, List.map_congr_left fixed, List.map_id']
  input := by
    rw [Part.filterMap_input?_map, List.getLast?_map, lists.input]
    cases own : c.input with
    | none => rfl
    | some path => exact congrArg some (Text.expandPid_of_unpaired (writable.input path own) pid)
  output := by
    rw [Part.filterMap_output?_map, List.getLast?_map, lists.output]
    cases own : c.output with
    | none => rfl
    | some path => exact congrArg some (Text.expandPid_of_unpaired (writable.output path own) pid)

/-! ## Parsing lines -/

/-- A text that spells words has them for its tokens. -/
theorem tokens_of_spells {words : List String}
    (spelled : Text.Spells Text.isBlank (words.map String.toList) line.toList) :
    tokens line = words := by
  rw [tokens, Text.words_of_spells spelled, List.map_map]
  simp [Function.comp_def]

/-- A command that can be written is written as no comment. -/
theorem Lists.not_isCommentLine (lists : Lists parts c) (writable : Writable maxArgs c)
    (tokens : tokens line = parts.flatMap Part.words) : isCommentLine line = false := by
  rw [isCommentLine, tokens]
  cases parts with
  | nil => rfl
  | cons part parts =>
    cases part with
    | argument word =>
      have first : c.written = word :: parts.filterMap Part.argument? := lists.arguments.symm
      show startsComment word = false
      exact forall_mem_head?_written writable.spoken (by decide) word (by rw [first]; rfl)
    | input path => exact (by decide : startsComment inputMarker = false)
    | output path => exact (by decide : startsComment outputMarker = false)

/-- Parsing undoes the writing of a command. A line that spells the words of the parts of a command,
with any white space between the words and around them, is parsed to that command unless
foreground-only mode is on, whatever the process id. -/
theorem parse_of_lists (writable : Writable maxArgs c) (lists : Lists parts c)
    (spelled : Text.Spells Text.isBlank ((parts.flatMap Part.words).map String.toList) line.toList)
    (pid : Int) : parse ⟨false, maxArgs, pid⟩ line = .ok c := by
  have tokens : tokens line = parts.flatMap Part.words := tokens_of_spells spelled
  have expanded := lists.map_expandPid writable pid
  have added : addTokens maxArgs {} ((Command.tokens line).map (Text.expandPid pid)) =
      .ok { c with argv := c.written, background := false } := by
    rw [tokens, ← flatMap_words_map (Text.expandPid_of_unpaired (by decide) pid)
      (Text.expandPid_of_unpaired (by decide) pid), addTokens_words]
    · rw [expanded.arguments, expanded.input, expanded.output]
      simp
    · rw [expanded.arguments]
      exact forall_mem_written writable.plain (by decide)
    · rw [expanded.arguments]
      simpa using writable.room
  rw [parse, lists.not_isCommentLine writable tokens]
  dsimp only
  rw [added]
  exact congrArg Except.ok (takeMarker_written writable.unmarked)

/-- A background command whose input comes from `<` and whose output goes to `#o`, written between
white space of all kinds, behind redirections that do not count. -/
theorem parse_of_lists_with_overridden_redirections :
    let c : Command := ⟨["cat", "a$"], some "<", some "#o", true⟩
    let parts : List Part := [.input "in.$$", .argument "cat", .output "out", .input "<",
      .argument "a$", .output "#o", .argument "&"]
    let line := "\u3000< in.$$ cat\t > out <\u0085<\u2028a$ > #o &\u00a0"
    Writable 3 c ∧ Lists parts c ∧
      Text.Spells Text.isBlank ((parts.flatMap Part.words).map String.toList) line.toList ∧
      parse ⟨false, 3, 42⟩ line = .ok c := by
  intro c parts line
  have writable : Writable 3 c := by constructor <;> decide
  have lists : Lists parts c := by constructor <;> decide
  have spelled : Text.Spells Text.isBlank ((parts.flatMap Part.words).map String.toList)
      line.toList := Text.words_eq_iff_spells.1 (by decide +kernel)
  exact ⟨writable, lists, spelled, parse_of_lists writable lists spelled 42⟩

end JobShell.Command
