import JobShell.Input

/-!
# Pieces of input

Input is cut into pieces at its newlines. The reader takes one piece after the other from a buffer;
the shell keeps the start of a piece while it waits for the next portion of input. Both come to the
same pieces, wherever the portions end.

* `Line.pieces`: the pieces that the reader takes.
* `Input.pieces_append`: what has come in is cut before the rest is there.
* `Input.map_piece_readings`: the pieces that the shell reads.
-/

namespace JobShell

/-! ## The pieces of a buffer -/

namespace Line

variable {bytes piece rest : Bytes} {b : UInt8}

/-- What is read is the input up to a newline, or to its end. -/
theorem split?_append (present : piece ++ rest ≠ []) (clean : newline ∉ piece)
    (ends : ∀ b ∈ rest.head?, b = newline) : split? (piece ++ rest) = some (piece, rest.tail) := by
  have inside : ∀ b ∈ piece, (b != newline) = true := fun b member =>
    bne_iff_ne.2 fun same => clean (same ▸ member)
  have stops : rest.takeWhile (· != newline) = [] ∧ rest.dropWhile (· != newline) = rest := by
    cases rest with
    | nil => exact ⟨rfl, rfl⟩
    | cons b rest => simp [ends b rfl]
  rw [split?, List.takeWhile_append_of_pos inside, List.dropWhile_append_of_pos inside, stops.1,
    stops.2, List.append_nil]
  exact present

theorem length_split?_lt (split : split? bytes = some (piece, rest)) :
    rest.length < bytes.length := by
  cases bytes with
  | nil => cases split
  | cons b bytes =>
    have dropped := (List.dropWhile_suffix (l := b :: bytes) (· != newline)).length_le
    have tail : rest = ((b :: bytes).dropWhile (· != newline)).tail := by
      cases split
      rfl
    rw [tail, List.length_tail]
    simp only [List.length_cons] at dropped ⊢
    omega

/-- The pieces that are taken from a buffer, one after the other. -/
def pieces (bytes : Bytes) : List Bytes :=
  match _split : split? bytes with
  | none => []
  | some (piece, rest) => piece :: pieces rest
termination_by bytes.length
decreasing_by exact length_split?_lt _split

/-- The first piece, and the pieces of what is left. -/
theorem pieces_of_split? (split : split? bytes = some (piece, rest)) :
    pieces bytes = piece :: pieces rest := by
  rw [pieces]
  split <;> rename_i other
  · rw [split] at other
    cases other
  · rw [split] at other
    cases other
    rfl

@[simp] theorem pieces_nil : pieces [] = [] := by
  rw [pieces]
  rfl

/-- What holds no newline is one piece, if it is not empty. -/
theorem pieces_of_clean (clean : newline ∉ bytes) :
    pieces bytes = if bytes.isEmpty then [] else [bytes] := by
  cases bytes with
  | nil => exact pieces_nil
  | cons b bytes =>
    have split : split? (b :: bytes ++ []) = some (b :: bytes, []) :=
      split?_append (by simp) clean (by simp)
    rw [List.append_nil] at split
    rw [pieces_of_split? split, pieces_nil]
    rfl

theorem pieces_append_newline (clean : newline ∉ piece) (rest : Bytes) :
    pieces (piece ++ newline :: rest) = piece :: pieces rest :=
  pieces_of_split? (split?_append (by simp) clean (by simp))

/-- Bytes without a newline are the start of a piece, and all others begin with a whole one. -/
@[elab_as_elim]
theorem piecewise {P : Bytes → Prop} (start : ∀ bytes, newline ∉ bytes → P bytes)
    (whole : ∀ piece rest, newline ∉ piece → P rest → P (piece ++ newline :: rest))
    (bytes : Bytes) : P bytes := by
  by_cases more : newline ∈ bytes
  · obtain ⟨piece, rest, same, clean⟩ := List.eq_append_cons_of_mem more
    rw [same]
    exact whole piece rest clean (piecewise start whole rest)
  · exact start bytes more
termination_by bytes.length
decreasing_by
  rw [same, List.length_append, List.length_cons]
  omega

end Line

/-! ## The pieces of a portion -/

namespace Input

open Line

variable {bytes piece rest left held : Bytes} {waits : List (List Event)}

theorem completePieces_of_clean (clean : newline ∉ bytes) :
    completePieces bytes = ([], bytes) := by
  induction bytes with
  | nil => rfl
  | cons b bytes ih =>
    obtain ⟨other, clean⟩ := not_or.1 fun found => clean (List.mem_cons.2 found)
    rw [completePieces, ih clean]
    dsimp only
    rw [if_neg (Ne.symm other)]

theorem completePieces_append_newline (clean : newline ∉ piece) (rest : Bytes) :
    completePieces (piece ++ newline :: rest) =
      (piece :: (completePieces rest).1, (completePieces rest).2) := by
  induction piece with
  | nil => rfl
  | cons b piece ih =>
    obtain ⟨other, clean⟩ := not_or.1 fun found => clean (List.mem_cons.2 found)
    rw [List.cons_append, completePieces, ih clean]
    dsimp only
    rw [if_neg (Ne.symm other)]

/-- No complete piece holds a newline. -/
theorem newline_not_mem_of_mem (member : piece ∈ (completePieces bytes).1) : newline ∉ piece := by
  induction bytes using piecewise with
  | start bytes clean =>
    rw [completePieces_of_clean clean] at member
    cases member
  | whole first rest clean ih =>
    rw [completePieces_append_newline clean] at member
    rcases List.mem_cons.1 member with rfl | later
    · exact clean
    · exact ih later

/-- What comes after the last newline holds none. -/
theorem newline_not_mem_completePieces (bytes : Bytes) : newline ∉ (completePieces bytes).2 := by
  induction bytes using piecewise with
  | start bytes clean => rwa [completePieces_of_clean clean]
  | whole piece rest clean ih => rwa [completePieces_append_newline clean]

/-- What has come in can be cut before the rest is there. -/
theorem pieces_append (bytes more : Bytes) : pieces (bytes ++ more) =
    (completePieces bytes).1 ++ pieces ((completePieces bytes).2 ++ more) := by
  induction bytes using piecewise with
  | start bytes clean => rw [completePieces_of_clean clean, List.nil_append]
  | whole piece rest clean ih =>
    rw [completePieces_append_newline clean, List.append_assoc, List.cons_append,
      pieces_append_newline clean, ih, List.cons_append]

/-- At the end of input, what comes after the last newline is a piece as well, unless it is empty. -/
theorem pieces_eq (bytes : Bytes) : pieces bytes = (completePieces bytes).1 ++
    if (completePieces bytes).2.isEmpty then [] else [(completePieces bytes).2] := by
  have cut := pieces_append bytes []
  rwa [List.append_nil, List.append_nil, pieces_of_clean (newline_not_mem_completePieces bytes)]
    at cut

/-- Nothing but newlines is lost. -/
theorem flatMap_completePieces (bytes : Bytes) :
    (completePieces bytes).1.flatMap (· ++ [newline]) ++ (completePieces bytes).2 = bytes := by
  induction bytes using piecewise with
  | start bytes clean => rw [completePieces_of_clean clean, List.flatMap_nil, List.nil_append]
  | whole piece rest clean ih =>
    rw [completePieces_append_newline clean, List.flatMap_cons, List.append_assoc, ih,
      List.append_assoc, List.singleton_append]

/-! ## The pieces of all portions -/

/-- At the end of input what is held is a last piece, and then nothing comes any more. -/
theorem map_piece_atEnd (waits : List (List Event)) (held : Bytes) (clean : newline ∉ left) :
    (atEnd waits held left).map (·.piece) = (pieces left).map some ++ [none] := by
  rw [pieces_of_clean clean, atEnd]
  split <;> rfl

/-- What has been kept and what comes in is read piece by piece, and the last read meets the end. -/
theorem map_piece_readingsFrom (waits : List (List Event)) (held : Bytes) (clean : newline ∉ left)
    (arrivals : List Arrival) : (readingsFrom waits held left arrivals).map (·.piece) =
      (pieces (left ++ received arrivals)).map some ++ [none] := by
  induction arrivals generalizing waits held left with
  | nil =>
    rw [received, List.append_nil]
    exact map_piece_atEnd waits held clean
  | cons a as ih =>
    rw [readingsFrom, received]
    split
    · rw [List.append_nil]
      exact map_piece_atEnd _ held clean
    · have kept := newline_not_mem_completePieces (left ++ a.bytes)
      rw [← List.append_assoc, pieces_append]
      generalize completePieces (left ++ a.bytes) = cut at kept
      obtain ⟨complete, rest⟩ := cut
      cases complete with
      | nil => exact ih _ held kept
      | cons piece complete => simp [ih [] rest kept]

/-- The shell reads the pieces of its input, wherever the portions end. -/
theorem map_piece_readings (arrivals : List Arrival) : (readings arrivals).map (·.piece) =
    (pieces (received arrivals)).map some ++ [none] :=
  map_piece_readingsFrom [] [] List.not_mem_nil arrivals

/-- Some reads are those of the pieces of bytes that `input` begins with, and of the end of input. -/
def ReadsFrom (input : Bytes) (rs : List Reading) : Prop :=
  ∃ seen, seen <+: input ∧ rs.map (·.piece) = (pieces seen).map some ++ [none]

/-- A read of a piece that a newline ends, and those behind it. -/
theorem ReadsFrom.cons {r : Reading} {input : Bytes} {rs : List Reading} (reads : ReadsFrom input rs)
    (clean : newline ∉ piece) (read : r.piece = some piece) :
    ReadsFrom (piece ++ newline :: input) (r :: rs) := by
  obtain ⟨seen, ⟨unseen, whole⟩, same⟩ := reads
  refine ⟨piece ++ newline :: seen, ⟨unseen, by rw [← whole]; simp⟩, ?_⟩
  rw [List.map_cons, same, read, pieces_append_newline clean]
  rfl

end Input
end JobShell
