import JobShell.Proofs.Parts
import JobShell.Proofs.Words

/-!
# Expansion before the line is cut

The parser cuts a line into words and then expands each of them. It could as well expand the line and
then cut it: white space ends a run of dollar signs, and what takes the place of a pair is not empty
and holds no white space. Since nothing is left to be expanded in an expanded line, parsing it
comes to the same as parsing the line.

* `words_expandPairs`: the words of an expanded text are the expanded words of the text.
* `parse_of_expanded`: a line and the expanded line stand for the same command, or error.
-/

namespace JobShell

/-! ## Words of an expanded text -/

namespace Text

variable {isSeparator : Char → Bool} {value cs w : List Char} {ws : List (List Char)}

/-- What is put in the place of a pair cuts no word, nor does a dollar sign, and it does not make a word
vanish. -/
structure Inert (isSeparator : Char → Bool) (value : List Char) : Prop where
  present : value ≠ []
  clean : ∀ x ∈ value, isSeparator x = false
  dollar : isSeparator '$' = false

theorem Inert.dollar_not_mem (inert : Inert isSeparator value) {g : List Char}
    (gap : IsGap isSeparator g) : '$' ∉ g := fun member => by
  have separates := gap '$' member
  rw [inert.dollar] at separates
  cases separates

theorem Inert.isWord (inert : Inert isSeparator value) (word : IsWord isSeparator w) :
    IsWord isSeparator (expandPairs value w) :=
  ⟨(expandPairs_eq_nil_iff inert.present).not.2 word.1, fun x member =>
    (mem_expandPairs member).elim (inert.clean x) (word.2 x)⟩

/-- A text that is expanded as a whole spells its words, expanded. -/
theorem Inert.spells (inert : Inert isSeparator value) (spells : Spells isSeparator ws cs) :
    Spells isSeparator (ws.map (expandPairs value)) (expandPairs value cs) := by
  induction spells with
  | @gap g gap =>
    have same : expandPairs value g = g := by
      simpa [expandPairs] using expandPairs_plain_append (inert.dollar_not_mem gap) []
    rw [same]
    exact .gap gap
  | @word g w rest ws gap word after _ ih =>
    have apart : rest.head? ≠ some '$' := fun first =>
      inert.dollar_not_mem (g := ['$']) (by simpa [IsGap] using after '$' first) (by simp)
    rw [List.append_assoc, expandPairs_plain_append (inert.dollar_not_mem gap),
      expandPairs_append apart, ← List.append_assoc]
    refine .word gap (inert.isWord word) ?_ ih
    -- What comes behind the word is a separator still: it is no dollar sign.
    cases rest with
    | nil => simp [expandPairs]
    | cons x rest =>
      rw [expandPairs_cons fun dollar => absurd (congrArg some dollar) apart]
      exact after

theorem words_expandPairs (inert : Inert isSeparator value) (cs : List Char) :
    words isSeparator (expandPairs value cs) = (words isSeparator cs).map (expandPairs value) :=
  words_of_spells (inert.spells (spells_words isSeparator cs))

/-- The text of a process id is inert in lines. -/
theorem inert_pidText (pid : Int) : Inert isBlank (toString pid).toList where
  present := pidText_ne_nil pid
  clean x member := by
    rcases mem_pidText member with rfl | digit
    · decide
    · obtain ⟨low, high⟩ : 48 ≤ x.toNat ∧ x.toNat ≤ 57 := by
        simpa [Char.isDigit, UInt32.le_iff_toNat_le] using digit
      simp [isBlank]
      omega
  dollar := by decide

end Text

/-! ## Parsing expanded lines -/

namespace Command

variable {line : String}

/-- An expanded line has as many words as the line, each of them expanded. -/
theorem tokens_expandPid (pid : Int) (line : String) :
    tokens (Text.expandPid pid line) = (tokens line).map (Text.expandPid pid) := by
  rw [tokens, tokens, Text.expandPid, String.toList_ofList,
    Text.words_expandPairs (Text.inert_pidText pid), List.map_map, List.map_map]
  refine List.map_congr_left fun word _ => ?_
  simp [Text.expandPid]

/-- A line is a comment before expansion exactly if it is one after it. -/
theorem isCommentLine_expandPid (pid : Int) (line : String) :
    isCommentLine (Text.expandPid pid line) = isCommentLine line := by
  rw [isCommentLine, isCommentLine, tokens_expandPid]
  cases tokens line with
  | nil => rfl
  | cons word rest => exact startsComment_expandPid pid word

/-- What has been expanded is not expanded again, whatever the process id. -/
theorem expandPid_expandPid (other pid : Int) (text : String) :
    Text.expandPid other (Text.expandPid pid text) = Text.expandPid pid text :=
  Text.expandPid_of_unpaired (Text.unpaired_expandPid pid text) other

/-- An expanded line is parsed as the line is. -/
theorem parse_expandPid (spoken : isCommentLine line = false) (ctx : Context) (other : Int) :
    parse { ctx with pid := other } (Text.expandPid ctx.pid line) = parse ctx line := by
  have still : ((tokens line).map (Text.expandPid ctx.pid)).map (Text.expandPid other) =
      (tokens line).map (Text.expandPid ctx.pid) := by
    rw [List.map_map]
    exact List.map_congr_left fun word _ => expandPid_expandPid other ctx.pid word
  rw [parse, parse, isCommentLine_expandPid, tokens_expandPid, still, spoken]
  rfl

/-- A line that is no comment can be expanded before it is parsed: in every context, the command or the
error is the one that the line itself comes to. Each word of the expanded line is a word of the line,
expanded. No word is a marker or starts a comment unless it did before, and so the expanded line is no
comment. Expanding it once more, with this process id or another one, changes nothing. -/
theorem parse_of_expanded (spoken : isCommentLine line = false) (ctx : Context) :
    let expanded := Text.expandPid ctx.pid line
    parse ctx expanded = parse ctx line ∧
    tokens expanded = (tokens line).map (Text.expandPid ctx.pid) ∧
    isCommentLine expanded = false ∧
    (∀ word, (IsMarker (Text.expandPid ctx.pid word) ↔ IsMarker word) ∧
      (Text.expandPid ctx.pid word = backgroundMarker ↔ word = backgroundMarker) ∧
      startsComment (Text.expandPid ctx.pid word) = startsComment word) ∧
    ∀ other, Text.expandPid other expanded = expanded ∧
      parse { ctx with pid := other } expanded = parse ctx line :=
  ⟨parse_expandPid spoken ctx ctx.pid, tokens_expandPid ctx.pid line,
    (isCommentLine_expandPid ctx.pid line).trans spoken,
    fun word => ⟨isMarker_expandPid_iff, expandPid_eq_backgroundMarker_iff,
      startsComment_expandPid ctx.pid word⟩,
    fun other => ⟨expandPid_expandPid other ctx.pid line, parse_expandPid spoken ctx other⟩⟩

/-- Dollar signs next to white space, to markers and to a `#`, and a process id with a sign. -/
theorem parse_of_expanded_in_runs :
    let line := "$$$ <\t$$$$#\u2003x$$y > $ #$$ $$&"
    let ctx : Context := ⟨false, 4, -12⟩
    let expanded := "-12$ <\t-12-12#\u2003x-12y > $ #-12 -12&"
    isCommentLine line = false ∧ Text.expandPid ctx.pid line = expanded ∧
      parse ctx line =
        .ok ⟨["-12$", "x-12y", "#-12", "-12&"], some "-12-12#", some "$", false⟩ ∧
      parse ctx expanded = parse ctx line ∧
      tokens expanded = (tokens line).map (Text.expandPid ctx.pid) ∧
      isCommentLine expanded = false ∧
      Text.expandPid 7 expanded = expanded ∧ parse ⟨false, 4, 7⟩ expanded = parse ctx line := by
  intro line ctx expanded
  have spoken : isCommentLine line = false := by decide +kernel
  have same : Text.expandPid ctx.pid line = expanded := by decide +kernel
  have laws := parse_of_expanded spoken ctx
  rw [same] at laws
  obtain ⟨parsed, words, uncommented, -, again⟩ := laws
  exact ⟨spoken, same, by decide +kernel, parsed, words, uncommented, again 7⟩

end Command

end JobShell
