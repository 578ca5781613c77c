import JobShell.Proofs.Background

/-!
# The background marker

A command is for the background if `&` is the last of its arguments. The parser looks for `&` among
the arguments that it keeps, so a limit on their number can cut the marker off, and can uncover an
`&` that is not the last argument of the line.

* `background_iff_kept_marker`: which lines ask for the background, and for which of them the last
  argument of the whole line decides.
* `background_misreads_cut_lines`: two lines for which it does not.
* `parse_append_marker`: what a marker more makes of a line, and that it makes nothing of it in
  foreground-only mode (`marker_unseen_in_foreground_only`).
-/

namespace JobShell.Command

variable {maxArgs : Nat} {pid : Int} {line word : String} {c : Command} {ctx : Context}

/-! ## Arguments of the whole line -/

/-- The arguments of a line are the same before expansion and after it. -/
theorem arguments_map_expandPid (pid : Int) (words : List String) :
    arguments (words.map (Text.expandPid pid)) = (arguments words).map (Text.expandPid pid) := by
  have marker : ∀ word, Text.expandPid pid word = inputMarker ∨ Text.expandPid pid word = outputMarker
      ↔ word = inputMarker ∨ word = outputMarker := fun word => isMarker_expandPid_iff
  fun_induction arguments words <;> simp_all [arguments]

theorem getLast?_map_expandPid (words : List String) (pid : Int) :
    (words.map (Text.expandPid pid)).getLast? = some backgroundMarker ↔
      words.getLast? = some backgroundMarker := by
  rw [List.getLast?_map]
  cases words.getLast? <;> simp [expandPid_eq_backgroundMarker_iff]

/-- The arguments that are kept are the first ones of the line, expanded. -/
theorem keptArguments_eq (maxArgs : Nat) (pid : Int) (line : String) :
    keptArguments maxArgs pid line =
      ((arguments (tokens line)).take maxArgs).map (Text.expandPid pid) := by
  rw [keptArguments, arguments_map_expandPid, List.map_take]

/-! ## Which argument decides -/

/-- A line that is no comment asks for the background if `&` is the last of the arguments that are
kept, and gets it unless foreground-only mode is on. So the last argument of the whole line decides
exactly if the mode is on, or none of the arguments is cut off, or both of these last arguments are
`&` or neither is. -/
theorem background_iff_kept_marker (parsed : parse ctx line = .ok c)
    (spoken : isCommentLine line = false) :
    let words := arguments (tokens line)
    let kept := words.take ctx.maxArgs
    (c.background = true ↔
      ctx.foregroundOnly = false ∧ kept.getLast? = some backgroundMarker) ∧
    ((c.background = true ↔
        ctx.foregroundOnly = false ∧ words.getLast? = some backgroundMarker) ↔
      ctx.foregroundOnly = true ∨ words.length ≤ ctx.maxArgs ∨
        (kept.getLast? = some backgroundMarker ↔ words.getLast? = some backgroundMarker)) := by
  intro words kept
  have asks : c.background = true ↔
      ctx.foregroundOnly = false ∧ kept.getLast? = some backgroundMarker := by
    rw [background_iff_of_not_comment parsed spoken, keptArguments_eq, getLast?_map_expandPid,
      and_comm]
  have uncut : words.length ≤ ctx.maxArgs → kept = words := List.take_of_length_le
  refine ⟨asks, ?_⟩
  rw [asks]
  cases ctx.foregroundOnly with
  | true => simp
  | false =>
    simp only [true_and, Bool.false_eq_true, false_or]
    exact ⟨.inr, fun agrees => agrees.elim (fun short => by rw [uncut short]) id⟩

/-- The fourth argument is cut off. The third one is `&`, so the command is for the background, and the
last argument of the line does not tell. -/
theorem background_iff_kept_marker_at_limit :
    let ctx : Context := ⟨false, 3, 7⟩
    let line := "echo < in $$ & > & b"
    let c : Command := ⟨["echo", "7"], some "in", some "&", true⟩
    let words := arguments (tokens line)
    parse ctx line = .ok c ∧ isCommentLine line = false ∧ words = ["echo", "$$", "&", "b"] ∧
      (words.take ctx.maxArgs).getLast? = some backgroundMarker ∧
      ¬ (c.background = true ↔
        ctx.foregroundOnly = false ∧ words.getLast? = some backgroundMarker) := by
  intro ctx line c words
  have parsed : parse ctx line = .ok c := by decide +kernel
  have spoken : isCommentLine line = false := by decide +kernel
  have given : words = ["echo", "$$", "&", "b"] := by decide +kernel
  obtain ⟨asks, decides⟩ := background_iff_kept_marker parsed spoken
  refine ⟨parsed, spoken, given, (asks.1 rfl).2, fun tells => ?_⟩
  have agree := decides.1 tells
  change _ ∨ words.length ≤ 3 ∨ ((words.take 3).getLast? = _ ↔ words.getLast? = _) at agree
  rw [given] at agree
  revert agree
  decide

/-- The limit cuts the marker off the first of two lines, whose command is waited for, and uncovers an
`&` in the second one, whose command is not. -/
theorem background_misreads_cut_lines :
    let asks (ctx : Context) (line : String) : Prop :=
      ctx.foregroundOnly = false ∧ (arguments (tokens line)).getLast? = some backgroundMarker
    let marked := "echo a b &"
    let unmarked := "echo & b"
    let first : Command := ⟨["echo", "a", "b"], none, none, false⟩
    let second : Command := ⟨["echo"], none, none, true⟩
    (parse ⟨false, 3, 1234⟩ marked = .ok first ∧ isCommentLine marked = false ∧
      ¬ (first.background = true ↔ asks ⟨false, 3, 1234⟩ marked)) ∧
    (parse ⟨false, 2, 1234⟩ unmarked = .ok second ∧ isCommentLine unmarked = false ∧
      ¬ (second.background = true ↔ asks ⟨false, 2, 1234⟩ unmarked)) := by
  decide +kernel

/-! ## A marker more -/

theorem tokens_append_marker (line : String) :
    tokens (line ++ " &") = tokens line ++ [backgroundMarker] := by
  have cut : Text.words Text.isBlank (line ++ " &").toList =
      Text.words Text.isBlank line.toList ++ [['&']] := by
    rw [String.toList_append]
    exact Text.words_append_separator (by decide) line.toList ['&']
  rw [tokens, cut, List.map_append]
  rfl

theorem isCommentLine_append_marker (spoken : isCommentLine line = false) :
    isCommentLine (line ++ " &") = false := by
  rw [isCommentLine] at spoken
  rw [isCommentLine, tokens_append_marker]
  cases words : tokens line with
  | nil => decide
  | cons word rest => simpa [words] using spoken

theorem takeMarker_of_unmarked {mode : Bool} (unmarked : c.argv.getLast? ≠ some backgroundMarker) :
    takeMarker mode c = c :=
  if_neg unmarked

/-- A marker at the end is taken, whether or not the mode allows the background. -/
theorem takeMarker_concat (mode : Bool) (c : Command) :
    takeMarker mode { c with argv := c.argv ++ [backgroundMarker] } =
      { c with background := !mode } := by
  simp [takeMarker]

/-- A marker behind parts whose kept arguments do not end in one is taken off again if there is room for it,
and makes no difference if there is none. -/
theorem ofParts_marker {parts : List Part}
    (unmarked : ((parts.filterMap Part.argument?).take ctx.maxArgs).getLast? ≠
      some backgroundMarker) :
    ofParts ctx (parts ++ [.argument backgroundMarker]) =
      { ofParts ctx parts with
        background := decide ((ofParts ctx parts).argv.length < ctx.maxArgs) &&
          !ctx.foregroundOnly } := by
  let c := withParts ctx.maxArgs {} (parts.map (Part.expand ctx.pid))
  have own : c.argv.getLast? ≠ some backgroundMarker := by
    rw [argv_withParts_expand, Ne, getLast?_map_expandPid]
    exact unmarked
  have before : ofParts ctx parts = c := takeMarker_of_unmarked own
  have marker : (Part.argument backgroundMarker).expand ctx.pid = .argument backgroundMarker :=
    congrArg Part.argument (expandPid_eq_backgroundMarker_iff.2 rfl)
  have behind : ofParts ctx (parts ++ [.argument backgroundMarker]) =
      takeMarker ctx.foregroundOnly (addArgument ctx.maxArgs c backgroundMarker) := by
    rw [ofParts, List.map_append, List.map_singleton, marker, withParts_append,
      withParts_argument, withParts_nil]
  rw [before, behind, addArgument]
  split <;> rename_i room
  · rw [takeMarker_concat, decide_eq_true room, Bool.true_and]
  · rw [takeMarker_of_unmarked own, decide_eq_false room, Bool.false_and]
    rfl

/-- A marker behind a line whose kept arguments do not end in one only asks for the background, and not even
that if there is no room for it. -/
theorem parse_append_marker (parsed : parse ctx line = .ok c)
    (spoken : isCommentLine line = false)
    (unmarked : ((arguments (tokens line)).take ctx.maxArgs).getLast? ≠ some backgroundMarker) :
    parse ctx (line ++ " &") = .ok
      { c with
        background := decide (c.argv.length < ctx.maxArgs) && !ctx.foregroundOnly } := by
  obtain ⟨parts, plain, whole, rfl⟩ := exists_parts_of_parse spoken parsed
  rw [whole, arguments_flatMap_words plain] at unmarked
  have marker : Plain [.argument backgroundMarker] := by decide
  have longer : tokens (line ++ " &") =
      (parts ++ [Part.argument backgroundMarker]).flatMap Part.words := by
    rw [tokens_append_marker, whole, List.flatMap_append]
    rfl
  rw [parse_of_parts (isCommentLine_append_marker spoken) (plain.append marker) longer,
    ofParts_marker unmarked]

/-- In foreground-only mode, a marker more makes no difference: ` &` behind a line that is no comment,
and whose kept arguments do not end in a marker already, leaves the command as it is, redirections and
all, whether or not there is room for another argument. -/
theorem marker_unseen_in_foreground_only (mode : ctx.foregroundOnly = true)
    (parsed : parse ctx line = .ok c) (spoken : isCommentLine line = false)
    (unmarked : ((arguments (tokens line)).take ctx.maxArgs).getLast? ≠ some backgroundMarker) :
    parse ctx (line ++ " &") = .ok c := by
  have foreground : c.background = false := by
    by_contra background
    have off := foregroundOnly_of_background parsed (by simpa using background)
    rw [mode] at off
    cases off
  rw [parse_append_marker parsed spoken unmarked, mode, Bool.not_true, Bool.and_false,
    ← foreground]

/-- The last argument is cut off, and so is the marker behind it; the `&` that are kept are an argument in
the middle and a path. -/
theorem marker_unseen_in_foreground_only_at_limit :
    let ctx : Context := ⟨true, 3, 7⟩
    let line := "sort < in.$$ & $$ > & b"
    let c : Command := ⟨["sort", "&", "7"], some "in.7", some "&", false⟩
    parse ctx line = .ok c ∧ isCommentLine line = false ∧
      (arguments (tokens line)).take ctx.maxArgs = ["sort", "&", "$$"] ∧
      parse ctx (line ++ " &") = .ok c := by
  intro ctx line c
  have parsed : parse ctx line = .ok c := by decide +kernel
  have spoken : isCommentLine line = false := by decide +kernel
  have kept : (arguments (tokens line)).take ctx.maxArgs = ["sort", "&", "$$"] := by
    decide +kernel
  exact ⟨parsed, spoken, kept,
    marker_unseen_in_foreground_only rfl parsed spoken (by rw [kept]; decide)⟩

end JobShell.Command
