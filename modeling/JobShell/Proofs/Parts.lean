import JobShell.Command
import JobShell.Proofs.Expansion

/-!
# The parts of a line

The words of a line are arguments, and redirections with their paths. Read from the left, they fall
into such parts, and a redirection marker without a path can be left over behind them. What a line
comes to is said here of its parts, so that nothing else has to go through its words.

* `exists_parts`: all words are those of parts, but for a marker at their end.
* `addTokens_parts`: what a command is after the words of parts, by induction over them.
* `parse_cases`: the two ways in which the parsing of a line ends.
-/

namespace JobShell.Command

/-- A word that takes the next one for the path of a redirection. -/
def IsMarker (word : String) : Prop :=
  word = inputMarker ∨ word = outputMarker

instance (word : String) : Decidable (IsMarker word) :=
  inferInstanceAs (Decidable (_ ∨ _))

/-- An argument, or a redirection with its path. -/
inductive Part where
  | argument (word : String)
  | input (path : String)
  | output (path : String)
  deriving DecidableEq, Repr

namespace Part

/-- A part as it is written. -/
def words : Part → List String
  | argument word => [word]
  | input path => [inputMarker, path]
  | output path => [outputMarker, path]

def argument? : Part → Option String
  | argument word => some word
  | _ => none

def input? : Part → Option String
  | input path => some path
  | _ => none

def output? : Part → Option String
  | output path => some path
  | _ => none

/-- The part with another word or path. -/
def map (f : String → String) : Part → Part
  | argument word => argument (f word)
  | input path => input (f path)
  | output path => output (f path)

/-- What is got out of mapped parts, if each of them is got out of the part that it comes from. -/
theorem filterMap_map {get : Part → Option String} {f : String → String}
    (maps : ∀ part, get (map f part) = (get part).map f) (parts : List Part) :
    (parts.map (map f)).filterMap get = (parts.filterMap get).map f := by
  rw [List.filterMap_map, List.map_filterMap]
  exact congrArg (List.filterMap · parts) (funext maps)

theorem filterMap_argument?_map (f : String → String) (parts : List Part) :
    (parts.map (map f)).filterMap argument? = (parts.filterMap argument?).map f :=
  filterMap_map (fun part => by cases part <;> rfl) parts

theorem filterMap_input?_map (f : String → String) (parts : List Part) :
    (parts.map (map f)).filterMap input? = (parts.filterMap input?).map f :=
  filterMap_map (fun part => by cases part <;> rfl) parts

theorem filterMap_output?_map (f : String → String) (parts : List Part) :
    (parts.map (map f)).filterMap output? = (parts.filterMap output?).map f :=
  filterMap_map (fun part => by cases part <;> rfl) parts

end Part

variable {maxArgs : Nat} {c : Command} {parts : List Part}

/-- The words of mapped parts, where the markers stay as they are. -/
theorem flatMap_words_map {f : String → String} (input : f inputMarker = inputMarker)
    (output : f outputMarker = outputMarker) (parts : List Part) :
    (parts.map (Part.map f)).flatMap Part.words = (parts.flatMap Part.words).map f := by
  induction parts with
  | nil => rfl
  | cons part parts ih =>
    rw [List.map_cons, List.flatMap_cons, List.flatMap_cons, List.map_append, ih]
    cases part <;> simp [Part.map, Part.words, input, output]

/-- No argument is taken for a redirection. -/
def Plain (parts : List Part) : Prop :=
  ∀ word ∈ parts.filterMap Part.argument?, ¬ IsMarker word

instance (parts : List Part) : Decidable (Plain parts) :=
  inferInstanceAs (Decidable (∀ word ∈ parts.filterMap Part.argument?, ¬ IsMarker word))

/-- Parts stay plain where nothing is made a marker. -/
theorem Plain.map {f : String → String} (plain : Plain parts)
    (marker : ∀ word, IsMarker (f word) → IsMarker word) : Plain (parts.map (Part.map f)) := by
  intro word member
  rw [Part.filterMap_argument?_map] at member
  obtain ⟨own, there, rfl⟩ := List.mem_map.1 member
  exact fun taken => plain own there (marker own taken)

theorem Plain.append {more : List Part} (plain : Plain parts) (later : Plain more) :
    Plain (parts ++ more) := by
  intro word member
  rw [List.filterMap_append, List.mem_append] at member
  exact member.elim (plain word) (later word)

/-- All words are those of parts, but for a marker that can be left over at the end. -/
theorem exists_parts (words : List String) :
    ∃ parts, ∃ left : Option String, Plain parts ∧ (∀ marker ∈ left, IsMarker marker) ∧
      words = parts.flatMap Part.words ++ left.toList := by
  -- The parts are found as the parser finds them; the command that it makes of them does not matter.
  induction ({} : Command), words using addTokens.induct 0 with
  | case1 c => exact ⟨[], none, by simp [Plain], by simp, rfl⟩
  | case2 c => exact ⟨[], some inputMarker, by simp [Plain], by simp [IsMarker], rfl⟩
  | case3 c path rest ih =>
    obtain ⟨parts, left, plain, marker, rfl⟩ := ih
    exact ⟨.input path :: parts, left, plain, marker, rfl⟩
  | case4 c other => exact ⟨[], some outputMarker, by simp [Plain], by simp [IsMarker], rfl⟩
  | case5 c path rest other ih =>
    obtain ⟨parts, left, plain, marker, rfl⟩ := ih
    exact ⟨.output path :: parts, left, plain, marker, rfl⟩
  | case6 c word rest noInput noOutput ih =>
    obtain ⟨parts, left, plain, marker, rfl⟩ := ih
    exact ⟨.argument word :: parts, left,
      List.forall_mem_cons.2 ⟨not_or.2 ⟨noInput, noOutput⟩, plain⟩, marker, rfl⟩

/-! ## Reading parts -/

/-- A command with parts added to it: as many arguments as there is room for, and the last redirection
of each kind. -/
def withParts (maxArgs : Nat) (c : Command) (parts : List Part) : Command :=
  { c with
    argv := c.argv ++ (parts.filterMap Part.argument?).take (maxArgs - c.argv.length)
    input := (parts.filterMap Part.input?).getLast?.or c.input
    output := (parts.filterMap Part.output?).getLast?.or c.output }

theorem withParts_nil (maxArgs : Nat) (c : Command) : withParts maxArgs c [] = c := by
  simp [withParts]

/-- An argument takes one of the places that are left, if one is. -/
theorem argv_addArgument_append (maxArgs : Nat) (c : Command) (word : String)
    (rest : List String) :
    (addArgument maxArgs c word).argv ++
        rest.take (maxArgs - (addArgument maxArgs c word).argv.length) =
      c.argv ++ (word :: rest).take (maxArgs - c.argv.length) := by
  unfold addArgument
  split <;> rename_i room
  · obtain ⟨n, left⟩ : ∃ n, maxArgs - c.argv.length = n + 1 :=
      ⟨maxArgs - c.argv.length - 1, by omega⟩
    have less : maxArgs - (c.argv ++ [word]).length = n := by simp; omega
    rw [less, left, List.take_succ_cons, List.append_assoc]
    rfl
  · have full : maxArgs - c.argv.length = 0 := by omega
    rw [full, List.take_zero, List.take_zero]

theorem withParts_argument (maxArgs : Nat) (c : Command) (word : String) (parts : List Part) :
    withParts maxArgs c (.argument word :: parts) =
      withParts maxArgs (addArgument maxArgs c word) parts := by
  have frame : (addArgument maxArgs c word).input = c.input ∧
      (addArgument maxArgs c word).output = c.output ∧
      (addArgument maxArgs c word).background = c.background := by
    unfold addArgument
    split <;> exact ⟨rfl, rfl, rfl⟩
  obtain ⟨input, output, background⟩ := frame
  have argv := argv_addArgument_append maxArgs c word (parts.filterMap Part.argument?)
  simp only [withParts, input, output, background, argv]
  rfl

theorem withParts_input (maxArgs : Nat) (c : Command) (path : String) (parts : List Part) :
    withParts maxArgs c (.input path :: parts) =
      withParts maxArgs { c with input := some path } parts := by
  simp [withParts, Part.argument?, Part.input?, Part.output?, List.getLast?_cons,
    List.filterMap_cons]

theorem withParts_output (maxArgs : Nat) (c : Command) (path : String) (parts : List Part) :
    withParts maxArgs c (.output path :: parts) =
      withParts maxArgs { c with output := some path } parts := by
  simp [withParts, Part.argument?, Part.input?, Part.output?, List.getLast?_cons,
    List.filterMap_cons]

theorem withParts_append (maxArgs : Nat) (c : Command) (parts more : List Part) :
    withParts maxArgs c (parts ++ more) = withParts maxArgs (withParts maxArgs c parts) more := by
  induction parts generalizing c with
  | nil => rw [withParts_nil]; rfl
  | cons part parts ih =>
    cases part with
    | argument word => rw [List.cons_append, withParts_argument, withParts_argument, ih]
    | input path => rw [List.cons_append, withParts_input, withParts_input, ih]
    | output path => rw [List.cons_append, withParts_output, withParts_output, ih]

/-- The words of parts are read as these parts, whatever comes behind them. -/
theorem addTokens_parts (plain : Plain parts) (more : List String) :
    addTokens maxArgs c (parts.flatMap Part.words ++ more) =
      addTokens maxArgs (withParts maxArgs c parts) more := by
  induction parts generalizing c with
  | nil => rw [withParts_nil]; rfl
  | cons part parts ih =>
    cases part with
    | argument word =>
      obtain ⟨spoken, others⟩ := List.forall_mem_cons.1 plain
      obtain ⟨noInput, noOutput⟩ := not_or.1 spoken
      show addTokens maxArgs c (word :: (parts.flatMap Part.words ++ more)) = _
      rw [addTokens.eq_def]
      dsimp only
      rw [if_neg noInput, if_neg noOutput, ih others, withParts_argument]
    | input path =>
      show addTokens maxArgs { c with input := some path } (parts.flatMap Part.words ++ more) = _
      rw [ih plain, withParts_input]
    | output path =>
      show addTokens maxArgs { c with output := some path } (parts.flatMap Part.words ++ more) = _
      rw [ih plain, withParts_output]

theorem addTokens_flatMap_words (plain : Plain parts) :
    addTokens maxArgs c (parts.flatMap Part.words) = .ok (withParts maxArgs c parts) := by
  rw [← List.append_nil (parts.flatMap Part.words), addTokens_parts plain]
  rfl

/-- A marker behind them has no path, which is an error. -/
theorem addTokens_marker_left {marker : String} (plain : Plain parts) (left : IsMarker marker) :
    addTokens maxArgs c (parts.flatMap Part.words ++ [marker]) =
      .error (.missingTarget marker) := by
  rw [addTokens_parts plain]
  rcases left with rfl | rfl <;> rfl

/-! ## Expansion of parts -/

/-- The markers hold no `$`, so expansion neither makes one nor destroys one. -/
theorem expandPid_eq_inputMarker_iff {pid : Int} {word : String} :
    Text.expandPid pid word = inputMarker ↔ word = inputMarker :=
  Text.expandPid_eq_singleton_iff (x := '<') (by decide) (by decide) pid

theorem expandPid_eq_outputMarker_iff {pid : Int} {word : String} :
    Text.expandPid pid word = outputMarker ↔ word = outputMarker :=
  Text.expandPid_eq_singleton_iff (x := '>') (by decide) (by decide) pid

theorem expandPid_eq_backgroundMarker_iff {pid : Int} {word : String} :
    Text.expandPid pid word = backgroundMarker ↔ word = backgroundMarker :=
  Text.expandPid_eq_singleton_iff (x := '&') (by decide) (by decide) pid

/-- Expansion does not change which words take a path. -/
theorem isMarker_expandPid_iff {pid : Int} {word : String} :
    IsMarker (Text.expandPid pid word) ↔ IsMarker word :=
  or_congr expandPid_eq_inputMarker_iff expandPid_eq_outputMarker_iff

/-- Expansion makes no comment of a word and none of a comment something else. -/
theorem startsComment_expandPid (pid : Int) (word : String) :
    startsComment (Text.expandPid pid word) = startsComment word := by
  have same : (Text.expandPairs (toString pid).toList word.toList).head? = some '#' ↔
      word.toList.head? = some '#' := Text.head?_expandPairs_eq_iff (Text.pidText_ne_nil pid)
    (Text.not_mem_pidText (by decide) (by decide) pid) (by decide)
  rw [Bool.eq_iff_iff, startsComment, startsComment, Text.expandPid, String.toList_ofList,
    beq_iff_eq, beq_iff_eq, same]

/-- A part with `$$` replaced in its word or path. -/
def Part.expand (pid : Int) : Part → Part :=
  Part.map (Text.expandPid pid)

/-- Plain parts stay plain when they are expanded. -/
theorem plain_expand (pid : Int) (plain : Plain parts) : Plain (parts.map (Part.expand pid)) :=
  plain.map fun _ => isMarker_expandPid_iff.1

/-- To expand the words of a line is to expand its parts. -/
theorem flatMap_words_expand (pid : Int) (parts : List Part) :
    (parts.map (Part.expand pid)).flatMap Part.words =
      (parts.flatMap Part.words).map (Text.expandPid pid) :=
  flatMap_words_map (expandPid_eq_inputMarker_iff.2 rfl) (expandPid_eq_outputMarker_iff.2 rfl) parts

/-! ## Parsing parts -/

variable {ctx : Context} {line : String}

/-- The command that parts come to. -/
def ofParts (ctx : Context) (parts : List Part) : Command :=
  takeMarker ctx.foregroundOnly
    (withParts ctx.maxArgs {} (parts.map (Part.expand ctx.pid)))

/-- The arguments are the first that are written, as many as there may be, expanded. -/
theorem argv_withParts_expand (ctx : Context) (parts : List Part) :
    (withParts ctx.maxArgs {} (parts.map (Part.expand ctx.pid))).argv =
      ((parts.filterMap Part.argument?).take ctx.maxArgs).map (Text.expandPid ctx.pid) := by
  rw [withParts, Part.expand, Part.filterMap_argument?_map, List.map_take]
  rfl

/-- The command is for the background if the kept arguments end in a marker, unless the mode forbids it. -/
theorem background_ofParts_iff : (ofParts ctx parts).background = true ↔
    (withParts ctx.maxArgs {} (parts.map (Part.expand ctx.pid))).argv.getLast? =
      some backgroundMarker ∧ ctx.foregroundOnly = false := by
  have foreground : (withParts ctx.maxArgs {} (parts.map (Part.expand ctx.pid))).background =
      false := rfl
  unfold ofParts takeMarker
  split <;> rename_i marked
  · simp [marked]
  · simp [marked, foreground]

/-- A line that is no comment stands for the command of its parts. -/
theorem parse_of_parts (spoken : isCommentLine line = false) (plain : Plain parts)
    (whole : tokens line = parts.flatMap Part.words) :
    parse ctx line = .ok (ofParts ctx parts) := by
  rw [parse, if_neg (by simp [spoken]), whole, ← flatMap_words_expand,
    addTokens_flatMap_words (plain_expand ctx.pid plain)]
  rfl

/-- If a marker is left over, it stands for the error that names the marker. -/
theorem parse_of_marker_left {marker : String} (spoken : isCommentLine line = false)
    (plain : Plain parts) (left : IsMarker marker)
    (whole : tokens line = parts.flatMap Part.words ++ [marker]) :
    parse ctx line = .error (.missingTarget marker) := by
  have kept : Text.expandPid ctx.pid marker = marker := by
    rcases left with rfl | rfl
    · exact expandPid_eq_inputMarker_iff.2 rfl
    · exact expandPid_eq_outputMarker_iff.2 rfl
  rw [parse, if_neg (by simp [spoken]), whole, List.map_append, ← flatMap_words_expand,
    List.map_singleton, kept, addTokens_marker_left (plain_expand ctx.pid plain) left]
  rfl

/-- A line that is no comment is made of parts, and stands for a command in every context, or a marker is
left over, and it stands for the same error in every context. -/
theorem parse_cases (spoken : isCommentLine line = false) :
    (∃ parts, Plain parts ∧ tokens line = parts.flatMap Part.words ∧
      ∀ ctx, parse ctx line = .ok (ofParts ctx parts)) ∨
    ∃ parts marker, Plain parts ∧ IsMarker marker ∧
      tokens line = parts.flatMap Part.words ++ [marker] ∧
      ∀ ctx, parse ctx line = .error (.missingTarget marker) := by
  obtain ⟨parts, left, plain, marker, whole⟩ := exists_parts (tokens line)
  cases left with
  | none =>
    rw [Option.toList_none, List.append_nil] at whole
    exact .inl ⟨parts, plain, whole, fun ctx => parse_of_parts spoken plain whole⟩
  | some last =>
    exact .inr ⟨parts, last, plain, marker last rfl, whole,
      fun ctx => parse_of_marker_left spoken plain (marker last rfl) whole⟩

/-- Where a command has come of a line, it is the command of its parts. -/
theorem exists_parts_of_parse (spoken : isCommentLine line = false)
    (parsed : parse ctx line = .ok c) :
    ∃ parts, Plain parts ∧ tokens line = parts.flatMap Part.words ∧ c = ofParts ctx parts := by
  obtain ⟨parts, plain, whole, reads⟩ | ⟨_, _, -, -, -, refuses⟩ := parse_cases spoken
  · rw [reads] at parsed
    cases parsed
    exact ⟨parts, plain, whole, rfl⟩
  · rw [refuses] at parsed
    cases parsed

end JobShell.Command
