import JobShell.Proofs.Marker

/-!
# Commands that are passed over

The parser takes a line for a comment by its first word, and a command is passed over by its first
argument. They are not the same if redirections come before the argument. So a line that begins with
a redirection, whose path is never opened, is passed over in silence if the first argument behind it
starts with `#`.

* `isComment_iff`: which commands are passed over.
* `passed_over_iff_no_hidden_comment`: for which lines the first word decides.
* `passed_over_behind_redirection`: a line for which it does not.
-/

namespace JobShell.Command

variable {maxArgs : Nat} {line : String} {c : Command} {ctx : Context} {parts : List Part}

/-- Redirections begin the line, and the first argument behind them starts with `#` and is kept. -/
def HidesComment (maxArgs : Nat) (line : String) : Prop :=
  0 < maxArgs ∧ ∃ redirections word rest, redirections ≠ [] ∧
    (∀ part ∈ redirections, part.argument? = none) ∧ startsComment word = true ∧
    tokens line = redirections.flatMap Part.words ++ word :: rest

/-! ## The first argument -/

theorem isComment_eq (c : Command) : c.isComment = c.argv.head?.any startsComment := by
  unfold isComment program
  cases c.argv with
  | nil => rfl
  | cons word rest => rfl

/-- The marker that is taken off is not an argument that starts a comment. -/
theorem isComment_takeMarker (mode : Bool) (c : Command) :
    (takeMarker mode c).isComment = c.isComment := by
  unfold takeMarker
  split <;> rename_i marked
  · rw [isComment_eq, isComment_eq]
    cases argv : c.argv with
    | nil => rfl
    | cons word rest =>
      cases rest with
      | nil =>
        rw [argv] at marked
        cases marked
        rfl
      | cons next rest => rfl
  · rfl

/-- Expansion does not change whether the first word is a comment. -/
theorem any_startsComment_expand (pid : Int) (words : List String) :
    (words.map (Text.expandPid pid)).head?.any startsComment = words.head?.any startsComment := by
  cases words with
  | nil => rfl
  | cons word rest => exact startsComment_expandPid pid word

/-- A command made of parts is a comment exactly if its first argument starts with `#` and is kept. -/
theorem isComment_ofParts : (ofParts ctx parts).isComment = true ↔
    0 < ctx.maxArgs ∧ ((parts.filterMap Part.argument?).head?.any startsComment) = true := by
  rw [ofParts, isComment_takeMarker, isComment_eq, argv_withParts_expand,
    any_startsComment_expand, List.head?_take]
  split <;> rename_i limit
  · simp [limit]
  · simp [Nat.pos_of_ne_zero limit]

/-! ## What comes before the first argument -/

theorem startsComment_of_isMarker {word : String} (marker : IsMarker word) :
    startsComment word = false := by
  rcases marker with rfl | rfl <;> decide

namespace HidesComment

/-- A line that begins with a redirection is no comment. -/
theorem spoken (hides : HidesComment maxArgs line) : isCommentLine line = false := by
  obtain ⟨-, redirections, word, rest, present, noArgument, -, whole⟩ := hides
  obtain ⟨part, others, rfl⟩ := List.exists_cons_of_ne_nil present
  rw [isCommentLine, whole]
  cases part with
  | argument word => cases noArgument _ List.mem_cons_self
  | input path => exact startsComment_of_isMarker (.inl rfl)
  | output path => exact startsComment_of_isMarker (.inr rfl)

theorem first_argument (hides : HidesComment maxArgs line) :
    (arguments (tokens line)).head?.any startsComment = true := by
  obtain ⟨-, redirections, word, rest, -, noArgument, marked, whole⟩ := hides
  have bare : redirections.filterMap Part.argument? = [] :=
    List.filterMap_eq_nil_iff.2 noArgument
  have plain : Plain redirections := fun word member => by
    rw [bare] at member
    cases member
  have argument : ¬ IsMarker word := fun marker => by
    rw [startsComment_of_isMarker marker] at marked
    cases marked
  rw [whole, arguments_parts plain, bare, arguments_of_word argument]
  exact marked

end HidesComment

/-- If the first argument of a line starts with `#` and the first word does not, redirections come before
the argument. -/
theorem hidesComment_of_parts (spoken : isCommentLine line = false)
    (whole : tokens line = parts.flatMap Part.words) (room : 0 < maxArgs)
    (marked : (parts.filterMap Part.argument?).head?.any startsComment = true) :
    HidesComment maxArgs line := by
  obtain ⟨word, first, starts⟩ := (Option.any_eq_true _ _).1 marked
  rw [List.head?_filterMap, List.findSome?_eq_some_iff] at first
  obtain ⟨redirections, part, others, rfl, own, noArgument⟩ := first
  obtain rfl : part = .argument word := by
    cases part with
    | argument own' => exact congrArg Part.argument (Option.some.inj own)
    | input path => cases own
    | output path => cases own
  rw [List.flatMap_append, List.flatMap_cons] at whole
  refine ⟨room, redirections, word, _, ?_, noArgument, starts, whole⟩
  rintro rfl
  have comment : isCommentLine line = true := by
    rw [isCommentLine, whole]
    exact starts
  rw [spoken] at comment
  cases comment

/-- A command is passed over exactly if its line is a comment or hides one. -/
theorem isComment_iff (parsed : parse ctx line = .ok c) :
    c.isComment = true ↔ isCommentLine line = true ∨ HidesComment ctx.maxArgs line := by
  cases spoken : isCommentLine line with
  | true =>
    rw [parse_of_isCommentLine spoken] at parsed
    cases parsed
    exact iff_of_true (isComment_of_isCommentLine spoken) (.inl rfl)
  | false =>
    obtain ⟨parts, plain, whole, rfl⟩ := exists_parts_of_parse spoken parsed
    rw [isComment_ofParts]
    constructor
    · rintro ⟨room, marked⟩
      exact .inr (hidesComment_of_parts spoken whole room marked)
    · rintro (comment | hides)
      · cases comment
      · have first := hides.first_argument
        rw [whole, arguments_flatMap_words plain] at first
        exact ⟨hides.1, first⟩

/-- A command that a line stands for is passed over, and leaves the session as it was, exactly if the line
is a comment or hides one. So the first word of the line decides unless it hides a comment. -/
theorem passed_over_iff_no_hidden_comment (parsed : parse ctx line = .ok c) :
    (c.isComment = true ↔ isCommentLine line = true ∨ HidesComment ctx.maxArgs line) ∧
    ((c.isComment = true → isCommentLine line = true) ↔ ¬ HidesComment ctx.maxArgs line) ∧
    (c.isComment = true → ∀ (env : Environment) (s : Session) (meanwhile : List Event),
      s.dispatch env c meanwhile = (s, .ok)) := by
  have passed := isComment_iff parsed
  refine ⟨passed, ⟨fun decides hides => ?_, fun bare comment => ?_⟩, fun comment env s meanwhile => ?_⟩
  · have first := decides (passed.2 (.inr hides))
    rw [hides.spoken] at first
    cases first
  · exact (passed.1 comment).resolve_right bare
  · rw [Session.dispatch_eq, comment, Bool.or_true]
    rfl

/-- Two redirections come before the note, and the limit cuts off the word behind the marker. -/
theorem passed_over_iff_no_hidden_comment_behind_two :
    let ctx : Context := ⟨false, 2, 7⟩
    let line := "> out < #in.$$ #note & x"
    let c : Command := ⟨["#note"], some "#in.7", some "out", true⟩
    parse ctx line = .ok c ∧ HidesComment ctx.maxArgs line ∧ c.isComment = true ∧
      ¬ (c.isComment = true → isCommentLine line = true) := by
  intro ctx line c
  have parsed : parse ctx line = .ok c := by decide +kernel
  have hides : HidesComment ctx.maxArgs line :=
    ⟨by decide, [.output "out", .input "#in.$$"], "#note", ["&", "x"], by decide, by decide,
      by decide, by decide +kernel⟩
  obtain ⟨passed, decides, -⟩ := passed_over_iff_no_hidden_comment parsed
  exact ⟨parsed, hides, passed.2 (.inr hides), fun first => decides.1 first hides⟩

/-- A line that begins with `<`, and is no comment, stands for a command that is passed over. -/
theorem passed_over_behind_redirection :
    let line := "< in #x"
    let c : Command := ⟨["#x"], some "in", none, false⟩
    parse ⟨false, 512, 1234⟩ line = .ok c ∧ (tokens line).head? = some "<" ∧
      ¬ (c.isComment = true → (tokens line).head?.any startsComment = true) := by
  decide +kernel

end JobShell.Command
