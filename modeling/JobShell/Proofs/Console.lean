import JobShell.Console
import JobShell.Proofs.Pieces
import Mathlib.Data.List.TakeWhile

/-!
# The lines of a console

However often a line is read, and whatever the bytes of the input are, each read answers for one
piece of it and leaves what comes after that piece.

* `Text.decode?_eq_some_iff`: what is accepted as UTF-8 is what a text is encoded to.
* `Cut.readLine`: what one read answers for the piece that is next.
* `readLines_answer_pieces`: any number of reads.
-/

namespace JobShell

/-! ## Texts and their bytes -/

namespace Text

variable {bytes : Bytes} {text : String}

theorem toListLoop_eq (bytes : ByteArray) (i : Nat) (before : List UInt8) :
    ByteArray.toList.loop bytes i before = before.reverse ++ bytes.data.toList.drop i := by
  induction i, before using ByteArray.toList.loop.induct bytes with
  | case1 i before inside ih =>
    have here : i < bytes.data.toList.length := by simpa using inside
    have next : bytes.get! i = bytes.data.toList[i] := by
      simp only [ByteArray.get!, Array.getElem_toList]
      exact getElem!_pos bytes.data i (by simpa using inside)
    rw [ByteArray.toList.loop, if_pos inside, ih, List.drop_eq_getElem_cons here, next]
    simp
  | case2 i before outside =>
    have ended : bytes.data.toList.length ≤ i := by simpa using outside
    rw [ByteArray.toList.loop, if_neg outside, List.drop_eq_nil_of_le ended, List.append_nil]

theorem toByteArray_toList (bytes : ByteArray) : bytes.toList.toByteArray = bytes := by
  apply ByteArray.ext
  rw [List.data_toByteArray, ByteArray.toList, toListLoop_eq]
  simp

theorem toList_toByteArray (bytes : Bytes) : bytes.toByteArray.toList = bytes := by
  rw [ByteArray.toList, toListLoop_eq, List.data_toByteArray]
  simp

/-- Bytes are read as a text exactly if that text is encoded to them. -/
theorem decode?_eq_some_iff : decode? bytes = some text ↔ encode text = bytes := by
  have same : text.toUTF8 = bytes.toByteArray ↔ encode text = bytes := by
    constructor
    · intro same
      rw [encode, same, toList_toByteArray]
    · rintro rfl
      exact (toByteArray_toList _).symm
  rw [← same, decode?, String.fromUTF8?]
  split <;> rename_i valid
  · rw [Option.some.injEq, ← String.toByteArray_inj, eq_comm]
    rfl
  · refine iff_of_false nofun fun same => valid ?_
    rw [← same]
    exact text.isValidUTF8

/-- What is no text in UTF-8 is refused. -/
theorem decode?_eq_none_iff : decode? bytes = none ↔ ∀ text, encode text ≠ bytes := by
  rw [Option.eq_none_iff_forall_ne_some]
  exact forall_congr' fun text => not_congr decode?_eq_some_iff

/-- The first character of a text that is not white space. -/
def firstInk? (text : String) : Option Char :=
  text.toList.find? fun c => !isBlank c

end Text

theorem Line.isNote_iff {text : String} : isNote text = true ↔ Text.firstInk? text = some '#' := by
  rw [isNote, Text.trimStart, Text.firstInk?, List.find?_not_eq_head?_dropWhile, beq_iff_eq]

namespace Console

open Line

variable {options : Options} {input last : Bytes} {complete : List Bytes} {shown : String}

/-! ## What a read answers -/

/-- What a read answers where a piece of input is next, or the end of input. A piece that is a text is
answered by just that text, unless it is too long and no comment. -/
inductive Answers (options : Options) : Option Bytes → LineResult → Prop
  | ended : Answers options none (.ok none)
  | malformed {piece : Bytes} : (∀ text, Text.encode text ≠ piece) →
    Answers options (some piece) (.error (.io "stream did not contain valid UTF-8"))
  | tooLong (text : String) : options.maxLine < (Text.encode text).length →
    Text.firstInk? text ≠ some '#' →
    Answers options (some (Text.encode text)) (.error (.lineTooLong options.maxLine))
  | line (text : String) :
    (Text.encode text).length ≤ options.maxLine ∨ Text.firstInk? text = some '#' →
    Answers options (some (Text.encode text)) (.ok (some text))

/-- The answer of a read. -/
def answer (options : Options) : Option Bytes → LineResult
  | none => .ok none
  | some piece => (accept options piece).map some

theorem answers_answer (options : Options) (next : Option Bytes) :
    Answers options next (answer options next) := by
  cases next with
  | none => exact .ended
  | some piece =>
    rw [answer, accept]
    cases decoded : Text.decode? piece with
    | none => exact .malformed (Text.decode?_eq_none_iff.1 decoded)
    | some text =>
      obtain rfl := Text.decode?_eq_some_iff.1 decoded
      dsimp only
      split <;> rename_i long
      · exact .tooLong text long.1 fun note => absurd (isNote_iff.2 note) (by simp [long.2])
      · refine .line text ?_
        rw [not_and_or, Nat.not_lt, Bool.not_eq_false, isNote_iff] at long
        exact long

/-- There is one answer to a read. -/
theorem answers_iff {next : Option Bytes} {result : LineResult} :
    Answers options next result ↔ result = answer options next := by
  refine ⟨fun answers => ?_, fun same => same ▸ answers_answer options next⟩
  have decoded : ∀ text, Text.decode? (Text.encode text) = some text :=
    fun text => Text.decode?_eq_some_iff.2 rfl
  cases answers with
  | ended => rfl
  | malformed unread =>
    rw [answer, accept, Text.decode?_eq_none_iff.2 unread]
    rfl
  | tooLong text long spoken =>
    have note : isNote text = false := Bool.eq_false_iff.2 (mt isNote_iff.1 spoken)
    rw [answer, accept, decoded]
    dsimp only
    rw [if_pos ⟨long, note⟩]
    rfl
  | line text accepted =>
    have short : ¬ (options.maxLine < (Text.encode text).length ∧ isNote text = false) := by
      rw [not_and_or, Nat.not_lt, Bool.not_eq_false, isNote_iff]
      exact accepted
    rw [answer, accept, decoded]
    dsimp only
    rw [if_neg short]
    rfl

/-! ## Pieces -/

/-- How an input is made of pieces: each of `complete` is ended by a newline, and `last` is what comes
after the last newline. -/
structure Cut (input : Bytes) (complete : List Bytes) (last : Bytes) : Prop where
  whole : complete.flatMap (· ++ [newline]) ++ last = input
  clean : ∀ piece ∈ complete, newline ∉ piece
  unended : newline ∉ last

/-- The pieces that are answered: what comes after the last newline is one unless it is empty. -/
def answered (complete : List Bytes) (last : Bytes) : List Bytes :=
  complete ++ if last.isEmpty then [] else [last]

/-- What is left of an input after `n` reads. -/
def unread (complete : List Bytes) (last : Bytes) (n : Nat) : Bytes :=
  (complete.drop n).flatMap (· ++ [newline]) ++ if n ≤ complete.length then last else []

/-- Every input is cut in one way: complete lines, and what is left behind them. -/
theorem exists_cut (input : Bytes) : ∃ complete last, Cut input complete last :=
  ⟨(Input.completePieces input).1, (Input.completePieces input).2,
    Input.flatMap_completePieces input, fun _ => Input.newline_not_mem_of_mem,
    Input.newline_not_mem_completePieces input⟩

/-- One read: it answers for the first piece, and the others are left. -/
theorem Cut.readLine (cut : Cut input complete last) (options : Options) (shown : String) :
    ∃ input' complete' last', Cut input' complete' last' ∧
      Console.readLine options ⟨input, shown⟩ =
        (answer options (answered complete last)[0]?, ⟨input', shown ++ options.prompt⟩) ∧
      (∀ k, (answered complete' last')[k]? = (answered complete last)[k + 1]?) ∧
      ∀ n, unread complete' last' n = unread complete last (n + 1) := by
  obtain ⟨rfl, clean, unended⟩ := cut
  cases complete with
  | nil =>
    refine ⟨[], [], [], ⟨rfl, by simp, by simp⟩, ?_, fun k => ?_, fun n => by simp [unread]⟩
    · cases last with
      | nil => rfl
      | cons b last =>
        have split : split? (b :: last ++ []) = some (b :: last, []) :=
          split?_append (by simp) unended (by simp)
        rw [List.append_nil] at split
        rw [List.flatMap_nil, List.nil_append, Console.readLine, Line.read, split]
        rfl
    · cases last <;> simp [answered]
  | cons piece complete =>
    obtain ⟨first, others⟩ := List.forall_mem_cons.1 clean
    refine ⟨_, complete, last, ⟨rfl, others, unended⟩, ?_, fun k => rfl, fun n => by simp [unread]⟩
    have split : split? (piece ++ newline :: (complete.flatMap (· ++ [newline]) ++ last)) =
        some (piece, complete.flatMap (· ++ [newline]) ++ last) :=
      split?_append (by simp) first (by simp)
    rw [List.flatMap_cons, List.append_assoc, List.append_assoc, List.singleton_append,
      Console.readLine, Line.read, split]
    rfl

/-! ## Any number of reads -/

/-- What `n` reads come to. -/
theorem Cut.readLines (cut : Cut input complete last) (options : Options) (shown : String)
    (n : Nat) : Console.readLines options n ⟨input, shown⟩ =
      ((List.range n).map fun k => answer options (answered complete last)[k]?,
        ⟨unread complete last n,
          shown ++ String.join (List.replicate n options.prompt)⟩) := by
  induction n generalizing input complete last shown with
  | zero =>
    rw [← cut.whole]
    simp [Console.readLines, unread]
  | succ n ih =>
    obtain ⟨input', complete', last', cut', read, later, left⟩ := cut.readLine options shown
    rw [Console.readLines, read]
    dsimp only
    rw [ih cut', List.range_succ_eq_map, List.map_cons, List.map_map, left n]
    simp [Function.comp_def, later, List.replicate_succ, String.append_assoc]

/-- The pieces of an input are those of its cut. -/
theorem Cut.pieces_eq (cut : Cut input complete last) :
    Line.pieces input = answered complete last := by
  obtain ⟨rfl, clean, unended⟩ := cut
  induction complete with
  | nil => exact pieces_of_clean unended
  | cons piece complete ih =>
    obtain ⟨first, others⟩ := List.forall_mem_cons.1 clean
    rw [List.flatMap_cons, List.append_assoc, List.append_assoc, List.singleton_append,
      pieces_append_newline first, ih others]
    rfl

/-- The shell, whose input comes in portions, gets the same answers wherever the portions end. -/
theorem map_answer_readings (options : Options) (arrivals : List Arrival) (shown : String) :
    (Input.readings arrivals).map (fun r => answer options r.piece) =
      (Console.readLines options (Input.readings arrivals).length
        ⟨Input.received arrivals, shown⟩).1 := by
  obtain ⟨complete, last, cut⟩ := exists_cut (Input.received arrivals)
  have pieces := Input.map_piece_readings arrivals
  rw [cut.pieces_eq] at pieces
  have count : (Input.readings arrivals).length = (answered complete last).length + 1 := by
    simpa using congrArg List.length pieces
  have answers : (Input.readings arrivals).map (fun r => answer options r.piece) =
      ((answered complete last).map some ++ [none]).map (answer options) := by
    rw [← pieces, List.map_map]
    rfl
  rw [answers, cut.readLines, count]
  refine List.ext_getElem (by simp) fun k _ within => ?_
  simp only [List.length_map, List.length_range] at within
  rcases Nat.lt_succ_iff_lt_or_eq.1 within with before | rfl
  · simp [before]
  · simp

/-- Reads of lines answer for the pieces of the input, one after the other, and then for its end,
however many there are. A piece that is not UTF-8 is refused, and so is one that is too long and no
comment; any other piece is the line, byte for byte. Each read shows the prompt once, and leaves the
input behind its piece, whether that was refused or not. The shell gets the same answers. -/
theorem readLines_answer_pieces (options : Options) (input : Bytes) (shown : String) :
    (∃ complete last, Cut input complete last ∧ ∀ n, ∃ results,
      readLines options n ⟨input, shown⟩ = (results, ⟨unread complete last n,
        shown ++ String.join (List.replicate n options.prompt)⟩) ∧
      results.length = n ∧
      ∀ k, k < n → ∀ result,
        results[k]? = some result ↔ Answers options (answered complete last)[k]? result) ∧
    ∀ arrivals, (Input.readings arrivals).map (fun r => answer options r.piece) =
      (readLines options (Input.readings arrivals).length ⟨Input.received arrivals, shown⟩).1 := by
  refine ⟨?_, fun arrivals => map_answer_readings options arrivals shown⟩
  obtain ⟨complete, last, cut⟩ := exists_cut input
  refine ⟨complete, last, cut, fun n => ⟨_, cut.readLines options shown n, by simp, ?_⟩⟩
  intro k within result
  rw [List.getElem?_map, List.getElem?_range within, answers_iff]
  exact Option.some_inj.trans eq_comm

/-- A carriage return stays, a byte that no text holds and a line that is too long are passed over, a
note and an empty line are not, and the last line has no newline. -/
theorem readLines_answer_pieces_past_refusals :
    let options : Options := { prompt := "$ ", maxLine := 4 }
    let input := Text.encode "ab\r\n" ++ [0xFF, newline] ++ Text.encode "echo 12\n # note\n\nend"
    (readLines options 8 ⟨input, "\n"⟩).1 =
        [.ok (some "ab\r"), .error (.io "stream did not contain valid UTF-8"),
          .error (.lineTooLong 4), .ok (some " # note"), .ok (some ""), .ok (some "end"),
          .ok none, .ok none] ∧
      (readLines options 2 ⟨input, "\n"⟩).2 =
        ⟨Text.encode "echo 12\n # note\n\nend", "\n$ $ "⟩ ∧
      ∃ complete last, Cut input complete last ∧
        Answers options (answered complete last)[2]? (.error (.lineTooLong 4)) := by
  intro options input
  obtain ⟨⟨complete, last, cut, reads⟩, -⟩ := readLines_answer_pieces options input "\n"
  obtain ⟨results, read, -, answers⟩ := reads 8
  have third : results[2]? = some (.error (.lineTooLong 4)) := by
    have same : results = (readLines options 8 ⟨input, "\n"⟩).1 := by rw [read]
    rw [same]
    decide +kernel
  exact ⟨by decide +kernel, by decide +kernel, complete, last, cut,
    (answers 2 (by decide) _).1 third⟩

end Console

end JobShell
