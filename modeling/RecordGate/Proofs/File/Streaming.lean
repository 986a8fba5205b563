import RecordGate.File.Stream

/-!
# A reader hands out the items of its file

What a reader has still to give is a list, told from what it keeps (`RowStream.remaining`). Asked for the next
item, it answers the first of the list and keeps the others; when the list is empty it answers that there is
none, and so it does ever after (`RowStream.next_remaining`). So the answers of the reader of a file are the
items of the file, one after the other, and then none (`RowStream.answer_stream`).
-/

namespace RecordGate

/-- Rows that are numbered on after a number of rows. -/
def RowItem.numberedAfter (before : Nat) (rows : List (Except String (Record Cell))) : List RowItem :=
  (rows.zipIdx (before + 1)).map fun (r, index) => ofCells index r

/-! ## CSV -/

namespace Csv

/-- The rows of records that stand under a header and after a number of rows. -/
def rowsAfter (input : Bytes) (names : List String) (before : Nat) (records : List Located) : List RowItem :=
  (records.zipIdx (before + 1)).map fun (record, index) => .ofCells index (cells input names index record)

namespace Stream

/-- The items that a reader has still to give. -/
def remaining (s : Stream) : List RowItem :=
  if s.done then []
  else
    match s.names with
    | some names => rowsAfter s.input names s.rowsRead (records s.left)
    | none =>
      match records s.left with
      | [] => []
      | header :: rest =>
        match texts header.fields with
        | .error fault => [.failed ⟨s.rowsRead, "unreadable header: " ++ fault.message 0 .start⟩]
        | .ok names => rowsAfter s.input (names.map headerName) s.rowsRead rest

theorem remaining_done {s : Stream} (h : s.done = true) : s.remaining = [] := if_pos h

theorem remaining_rows {s : Stream} {names : List String} (going : s.done = false) (h : s.names = some names) :
    s.remaining = rowsAfter s.input names s.rowsRead (records s.left) := by
  rw [remaining, going, h]
  rfl

theorem nextRow_remaining {s : Stream} {names : List String} (going : s.done = false) (h : s.names = some names) :
    (s.nextRow names).1 = s.remaining.head? ∧ (s.nextRow names).2.remaining = s.remaining.tail := by
  rw [remaining_rows going h, records_eq, nextRow]
  cases read : record? s.left with
  | none => exact ⟨rfl, remaining_done rfl⟩
  | some record =>
    obtain ⟨fields, rest⟩ := record
    exact ⟨rfl, remaining_rows going h⟩

theorem next_remaining (s : Stream) : s.next.1 = s.remaining.head? ∧ s.next.2.remaining = s.remaining.tail := by
  cases ended : s.done with
  | true =>
    rw [next, if_pos ended, remaining_done ended]
    exact ⟨rfl, rfl⟩
  | false =>
    rw [next, if_neg (by simp [ended])]
    cases header : s.names with
    | some names => exact nextRow_remaining ended header
    | none =>
      have given : s.remaining = _ := if_neg (by simp [ended])
      rw [given, header, records_eq]
      cases read : record? s.left with
      | none => exact ⟨rfl, remaining_done rfl⟩
      | some record =>
        obtain ⟨fields, rest⟩ := record
        dsimp only
        cases decoded : texts fields with
        | error fault => exact ⟨rfl, remaining_done rfl⟩
        | ok names =>
          have rows : rowsAfter s.input (names.map headerName) s.rowsRead (records rest) =
              remaining { s with left := rest, names := some (names.map headerName) } :=
            (remaining_rows (s := { s with left := rest, names := some (names.map headerName) }) ended rfl).symm
          dsimp only
          rw [rows]
          exact nextRow_remaining ended rfl

theorem remaining_start (input : Bytes) : (start input).remaining = rows input := rfl

end Stream

end Csv

/-! ## JSON arrays -/

namespace JsonArray

open JsonRecord (isSpace)

theorem splitFrom_eq (s : State) (element : Bytes) (done : List Bytes) (input : Bytes) :
    splitFrom s element done input =
      (done.reverse ++ (splitFrom s element [] input).1, (splitFrom s element [] input).2) := by
  induction input generalizing s element done with
  | nil => simp [splitFrom]
  | cons b rest ih =>
    simp only [splitFrom]
    split
    · split
      · simp
      · split
        · rw [ih, ih _ _ [element.reverse]]
          simp
        · simp
    · exact ih ..

/-- An element ends at a comma or at a closing bracket. -/
theorem ending_of_element? {s : State} {element input found rest : Bytes} {b : UInt8}
    (h : element? s element input = some (found, b, rest)) : b = 0x2C ∨ b = 0x5D := by
  induction input generalizing s element with
  | nil => cases h
  | cons c rest ih =>
    rw [element?] at h
    split at h
    · next ends =>
      cases h
      simpa [State.endsAt] using (Bool.and_eq_true_iff.mp ends).2
    · exact ih h

/-- The elements of an array are the next one and those after it. -/
theorem splitFrom_element? (s : State) (element input : Bytes) :
    splitFrom s element [] input =
      match element? s element input with
      | none => ([], .truncated)
      | some (found, b, rest) =>
        if found.all isSpace then ([], .emptyElement)
        else if b == 0x2C then
          (found :: (splitFrom .start [] [] rest).1, (splitFrom .start [] [] rest).2)
        else ([found], .after rest) := by
  induction input generalizing s element with
  | nil => rfl
  | cons b rest ih =>
    rw [splitFrom, element?]
    split
    · rw [splitFrom_eq _ _ [element.reverse]]
      simp only [List.all_reverse]
      rfl
    · exact ih ..

/-- The rows of elements that stand after a number of rows, and the fault of the ending. -/
def rowsAfter (before : Nat) (read : List Bytes × Ending) : List RowItem :=
  RowItem.numberedAfter before (read.1.map JsonRecord.cells) ++
    ((read.2.fault? (before + read.1.length)).toList.map .failed)

theorem rowsAfter_nil (before : Nat) (ending : Ending) :
    rowsAfter before ([], ending) = (ending.fault? before).toList.map .failed := rfl

theorem rowsAfter_cons (before : Nat) (element : Bytes) (elements : List Bytes) (ending : Ending) :
    rowsAfter before (element :: elements, ending) =
      .ofCells (before + 1) (JsonRecord.cells element) :: rowsAfter (before + 1) (elements, ending) := by
  have count : before + (elements.length + 1) = before + 1 + elements.length := by omega
  rw [rowsAfter, rowsAfter, List.length_cons, count]
  rfl

namespace Stream

/-- The items that a reader has still to give. -/
def remaining (s : Stream) : List RowItem :=
  match s.progress with
  | .done => []
  | .closed => rowsAfter s.rowsRead ([], .after s.left)
  | .within true => rowsAfter s.rowsRead (split s.left)
  | .within false => rowsAfter s.rowsRead (splitFrom .start [] [] s.left)
  | .start =>
    match s.left.dropWhile isSpace with
    | [] => [.failed ⟨s.rowsRead, "empty JSON document"⟩]
    | b :: rest =>
      if b == 0x5B then rowsAfter s.rowsRead (split rest)
      else if b == 0x7B then
        match Json.parse (b :: rest) with
        | .ok j => RowItem.numberedAfter s.rowsRead [JsonRecord.ofJson j]
        | .error e => [.failed ⟨s.rowsRead, e.message⟩]
      else [.failed ⟨s.rowsRead, s!"expected a JSON array or object, found `{byteName b}`"⟩]

variable {s : Stream}

theorem finish_remaining (ending : Ending) :
    (s.finish ending).1 = (rowsAfter s.rowsRead ([], ending)).head? ∧
      (s.finish ending).2.remaining = (rowsAfter s.rowsRead ([], ending)).tail := by
  rw [rowsAfter_nil, finish]
  cases ending.fault? s.rowsRead <;> exact ⟨rfl, rfl⟩

theorem nextElement_remaining (s : Stream) :
    s.nextElement.1 = (rowsAfter s.rowsRead (splitFrom .start [] [] s.left)).head? ∧
      s.nextElement.2.remaining = (rowsAfter s.rowsRead (splitFrom .start [] [] s.left)).tail := by
  rw [splitFrom_element?, nextElement]
  cases cut : element? .start [] s.left with
  | none => exact finish_remaining .truncated
  | some found =>
    obtain ⟨element, b, rest⟩ := found
    dsimp only
    split
    · exact finish_remaining .emptyElement
    rcases ending_of_element? cut with rfl | rfl
    · have more : ((0x2C : UInt8) == 0x2C) = true := rfl
      rw [if_pos more, rowsAfter_cons]
      exact ⟨rfl, rfl⟩
    · have last : ¬((0x5D : UInt8) == 0x2C) = true := by decide
      rw [if_neg last, rowsAfter_cons]
      exact ⟨rfl, rfl⟩

theorem nextFirst_remaining (s : Stream) :
    s.nextFirst.1 = (rowsAfter s.rowsRead (split s.left)).head? ∧
      s.nextFirst.2.remaining = (rowsAfter s.rowsRead (split s.left)).tail := by
  rw [split, nextFirst]
  cases s.left.dropWhile isSpace with
  | nil => exact finish_remaining .truncated
  | cons b rest =>
    dsimp only
    split
    · exact finish_remaining (.after rest)
    · exact nextElement_remaining { s with left := b :: rest }

theorem next_remaining (s : Stream) : s.next.1 = s.remaining.head? ∧ s.next.2.remaining = s.remaining.tail := by
  rw [next, remaining]
  cases stage : s.progress with
  | done => exact ⟨rfl, by rw [remaining, stage]; rfl⟩
  | closed => exact finish_remaining (.after s.left)
  | within first =>
    cases first with
    | true => exact nextFirst_remaining s
    | false => exact nextElement_remaining s
  | start =>
    dsimp only
    cases s.left.dropWhile isSpace with
    | nil => exact ⟨rfl, rfl⟩
    | cons b rest =>
      dsimp only
      split
      · exact nextFirst_remaining { s with left := rest }
      split
      · rw [nextSingle]
        cases Json.parse (b :: rest) <;> exact ⟨rfl, rfl⟩
      · exact ⟨rfl, rfl⟩

theorem remaining_start (input : Bytes) : (start input).remaining = rows input := by
  rw [remaining, rows]
  dsimp only [start]
  cases input.dropWhile isSpace with
  | nil => rfl
  | cons b rest =>
    dsimp only
    split
    · rw [rowsAfter, Nat.zero_add]
      rfl
    · rfl

end Stream

end JsonArray

/-! ## JSON lines -/

namespace JsonLines

open JsonRecord (isSpace)

/-- The lines of a file that are not blank. -/
def records (input : Bytes) : List Bytes := (lines input).filter fun line => !line.all isSpace

theorem linesFrom_eq (line : Bytes) (done : List Bytes) (input : Bytes) :
    linesFrom line done input = done.reverse ++ linesFrom line [] input := by
  induction input generalizing line done with
  | nil => simp [linesFrom]
  | cons b rest ih =>
    simp only [linesFrom]
    split
    · rw [ih, ih _ [_]]
      simp
    · exact ih ..

/-- The records of a file are its first line, if it is not blank, and those after it. -/
theorem filter_linesFrom (line input : Bytes) :
    (linesFrom line [] input).filter (fun line => !line.all isSpace) =
      if (lineFrom line input).1.all isSpace then records (lineFrom line input).2
      else (lineFrom line input).1 :: records (lineFrom line input).2 := by
  induction input generalizing line with
  | nil =>
    -- What follows the last line is a blank line, which does not count.
    change List.filter _ [line.reverse] = _
    rw [List.filter_cons, lineFrom]
    cases line.reverse.all isSpace <;> rfl
  | cons b rest ih =>
    rw [linesFrom, lineFrom]
    split
    · rw [linesFrom_eq]
      change List.filter _ ((b :: line).reverse :: linesFrom [] [] rest) = _
      rw [List.filter_cons]
      cases (b :: line).reverse.all isSpace <;> rfl
    · exact ih ..

theorem records_eq (input : Bytes) :
    records input =
      match nextLine? input with
      | none => []
      | some (line, left) => line :: records left := by
  fun_induction nextLine? input with
  | case1 => rfl
  | case2 b rest read blank ih =>
    rw [← ih]
    exact (filter_linesFrom [] (b :: rest)).trans (if_pos blank)
  | case3 b rest read filled => exact (filter_linesFrom [] (b :: rest)).trans (if_neg filled)

namespace Stream

/-- The items that a reader has still to give. -/
def remaining (s : Stream) : List RowItem :=
  if s.done then [] else RowItem.numberedAfter s.rowsRead ((records s.left).map JsonRecord.cells)

theorem remaining_done {s : Stream} (h : s.done = true) : s.remaining = [] := if_pos h

theorem next_remaining (s : Stream) : s.next.1 = s.remaining.head? ∧ s.next.2.remaining = s.remaining.tail := by
  cases ended : s.done with
  | true =>
    rw [next, if_pos ended, remaining_done ended]
    exact ⟨rfl, rfl⟩
  | false =>
    have going : ¬s.done = true := by simp [ended]
    rw [next, if_neg going, remaining, if_neg going, records_eq]
    cases nextLine? s.left with
    | none => exact ⟨rfl, remaining_done rfl⟩
    | some read => exact ⟨rfl, if_neg going⟩

theorem remaining_start (input : Bytes) : (start input).remaining = rows input := rfl

end Stream

end JsonLines

/-! ## All formats -/

namespace RowStream

/-- The items that a reader has still to give. -/
def remaining : RowStream → List RowItem
  | csv s => s.remaining
  | json s => s.remaining
  | jsonLines s => s.remaining

/-- **A step of a reader** answers the first of the items that are to be given, and leaves the others. -/
theorem next_remaining (s : RowStream) : s.next.1 = s.remaining.head? ∧ s.next.2.remaining = s.remaining.tail := by
  cases s with
  | csv s => exact s.next_remaining
  | json s => exact s.next_remaining
  | jsonLines s => exact s.next_remaining

/-- The answers of a reader are the items that are to be given, in order, and then none. -/
theorem answer_eq (calls : Nat) (s : RowStream) : s.answer calls = s.remaining[calls]? := by
  induction calls generalizing s with
  | zero => exact s.next_remaining.1.trans List.head?_eq_getElem?
  | succ calls ih =>
    have later : s.answer (calls + 1) = s.next.2.answer calls := rfl
    rw [later, ih, s.next_remaining.2, List.getElem?_tail]

theorem remaining_stream (format : Format) (input : Bytes) : (format.stream input).remaining = format.rows input := by
  cases format with
  | csv => exact Csv.Stream.remaining_start input
  | json => exact JsonArray.Stream.remaining_start input
  | jsonLines => exact JsonLines.Stream.remaining_start input

/-- **The reader of a file answers the items of the file**, one after the other, and then none. -/
theorem answer_stream (format : Format) (input : Bytes) (calls : Nat) :
    (format.stream input).answer calls = (format.rows input)[calls]? := by
  rw [answer_eq, remaining_stream]

end RowStream

end RecordGate
