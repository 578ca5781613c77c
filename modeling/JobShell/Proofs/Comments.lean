import JobShell.Proofs.Outputs
import JobShell.Proofs.Pieces
import JobShell.Proofs.Words

/-!
# Comments

The reader looks for a comment at the first character that is not white space, the parser at the
first word of a line, and what becomes of a command depends on the name of its program. The three
agree on every line.

* `isNote_eq_isCommentLine`: the reader and the parser agree.
* `comment_passed_over`: a comment is read, whatever its length, and nothing comes of it.
-/

namespace JobShell

variable {line word : String} {words : List String} {piece rest : Bytes}

/-! ## Three tests -/

theorem head?_any_startsComment (words : List (List Char)) :
    (words.map String.ofList).head?.any Command.startsComment =
      (words.head?.bind List.head? == some '#') := by
  cases words with
  | nil => rfl
  | cons w ws => simp [Command.startsComment]

/-- The reader takes a line for a comment exactly if the parser does. -/
theorem isNote_eq_isCommentLine (line : String) :
    Line.isNote line = Command.isCommentLine line := by
  rw [Command.isCommentLine, Command.tokens, head?_any_startsComment, Text.head?_words]
  rfl

theorem Command.isCommentLine_of_tokens (first : tokens line = word :: words)
    (marked : word.toList.head? = some '#') : isCommentLine line = true := by
  simp [isCommentLine, first, startsComment, marked]

/-- A comment is parsed as its words, unexpanded. -/
theorem Command.parse_of_isCommentLine (comment : isCommentLine line = true) (ctx : Context) :
    parse ctx line = .ok { argv := tokens line } := by
  rw [parse, if_pos comment]

/-- What has been parsed so is a comment still. -/
theorem Command.isComment_of_isCommentLine (comment : isCommentLine line = true) :
    isComment { argv := tokens line } = true := by
  unfold isCommentLine at comment
  cases words : tokens line with
  | nil => simp [words] at comment
  | cons word rest => simpa [isComment, program, words] using comment

/-! ## The way of a comment -/

namespace Line

theorem accept_of_isNote (decoded : Text.decode? piece = some line) (note : isNote line = true)
    (options : Options) : accept options piece = .ok line := by
  rw [accept, decoded]
  dsimp only
  rw [if_neg (by simp [note])]

theorem read_of_isNote (decoded : Text.decode? piece = some line) (note : isNote line = true)
    (clean : newline ∉ piece) (ends : ∀ b ∈ rest.head?, b = newline) (options : Options) :
    read options (piece ++ rest) = (.ok (some line), rest.tail) := by
  have present : piece ≠ [] := by
    rintro rfl
    cases decoded
    cases note
  rw [read, split?_append (List.append_ne_nil_of_left_ne_nil present rest) clean ends]
  dsimp only
  rw [accept_of_isNote decoded note]
  rfl

end Line

theorem Session.dispatch_of_isCommentLine (comment : Command.isCommentLine line = true)
    (env : Environment) (meanwhile : List Event) (s : Session) :
    s.dispatch env { argv := Command.tokens line } meanwhile = (s, .ok) := by
  rw [Session.dispatch_eq, Command.isComment_of_isCommentLine comment, Bool.or_true]
  rfl

/-- The reader and the parser agree on which lines are comments. A line whose first word starts with
`#` is read under all options, however long it is. It stands for a command without redirections
that is not one for the background, in every context, and nothing comes of that command: it leaves a
session as it was and says nothing. -/
theorem comment_passed_over (line : String) :
    Line.isNote line = Command.isCommentLine line ∧
      ∀ word words piece, Command.tokens line = word :: words → word.toList.head? = some '#' →
        Text.decode? piece = some line →
        (∀ options, Line.accept options piece = .ok line ∧
          (Line.newline ∉ piece → ∀ rest : Bytes, (∀ b ∈ rest.head?, b = Line.newline) →
            Line.read options (piece ++ rest) = (.ok (some line), rest.tail))) ∧
        ∃ c : Command, c.argv = Command.tokens line ∧ c.input = none ∧ c.output = none ∧
          c.background = false ∧ (∀ ctx, Command.parse ctx line = .ok c) ∧
          ∀ (env : Environment) (s : Session) (meanwhile : List Event),
            s.dispatch env c meanwhile = (s, .ok) ∧
              s.handlePiece env piece meanwhile = (s, .ok) := by
  refine ⟨isNote_eq_isCommentLine line, fun word words piece first marked decoded => ?_⟩
  have comment := Command.isCommentLine_of_tokens first marked
  have note : Line.isNote line = true := (isNote_eq_isCommentLine line).trans comment
  refine ⟨fun options => ⟨Line.accept_of_isNote decoded note options, fun clean rest ends =>
    Line.read_of_isNote decoded note clean ends options⟩, ?_⟩
  refine ⟨{ argv := Command.tokens line }, rfl, rfl, rfl, rfl, fun ctx =>
    Command.parse_of_isCommentLine comment ctx, fun env s meanwhile => ?_⟩
  have idle := s.dispatch_of_isCommentLine comment env meanwhile
  refine ⟨idle, ?_⟩
  rw [Session.handlePiece_eq, Line.accept_of_isNote decoded note]
  show s.handleLine env line meanwhile = _
  rw [Session.handleLine_eq, Command.parse_of_isCommentLine comment]
  exact idle

/-- A note behind an ideographic space, with a redirection that has no path, for a shell that accepts
no characters and keeps no arguments. -/
theorem comment_passed_over_with_markers :
    let line := "\u3000 #note & $$ <"
    let piece := Text.encode line
    Command.tokens line = ["#note", "&", "$$", "<"] ∧
      Line.accept { maxArgs := 0, maxLine := 0 } piece = .ok line ∧
      Line.read { maxArgs := 0, maxLine := 0 } (piece ++ [Line.newline, 33]) =
        (.ok (some line), [33]) ∧
      ∃ c : Command, c.argv = Command.tokens line ∧ c.input = none ∧ c.output = none ∧
        c.background = false ∧ Command.parse ⟨false, 0, 7⟩ line = .ok c := by
  intro line piece
  have tokens : Command.tokens line = ["#note", "&", "$$", "<"] := by decide +kernel
  obtain ⟨reads, c, argv, input, output, background, parsed, -⟩ :=
    (comment_passed_over line).2 _ _ piece tokens (by decide) (by decide +kernel)
  exact ⟨tokens, (reads _).1, (reads _).2 (by decide +kernel) [Line.newline, 33] (by simp), c, argv,
    input, output, background, parsed _⟩

end JobShell
