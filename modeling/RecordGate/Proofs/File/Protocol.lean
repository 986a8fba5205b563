import RecordGate.File.Stream
import RecordGate.Proofs.Batch.Driving
import RecordGate.Proofs.File.Streaming

/-!
# What may be relied on when a file is read

In every format the items of a file are rows that are numbered from 1, and behind them perhaps a failure,
which tells how many rows there were (`RowItem.delivery`, `Format.rows_eq_delivery`). A reader answers these
items and then none (`RowStream.answer_stream`), so that whoever asks it may count on `RowStream.InOrder`.
-/

namespace RecordGate

/-! ## The items of a file -/

namespace RowItem

/-- Rows that are numbered from 1, and behind them the failure to read on if there is one. -/
def delivery (rows : List (Except String (Record Cell))) (failure : Option String) : List RowItem :=
  numbered rows ++ failure.toList.map fun message => .failed ⟨rows.length, message⟩

variable {rows : List (Except String (Record Cell))} {failure : Option String} {k : Nat}

theorem length_numbered (rows : List (Except String (Record Cell))) : (numbered rows).length = rows.length := by
  rw [numbered, List.length_map, List.length_zipIdx]

theorem getElem?_numbered (rows : List (Except String (Record Cell))) (k : Nat) :
    (numbered rows)[k]? = rows[k]?.map (ofCells (k + 1)) := by
  rw [numbered, List.getElem?_map, List.getElem?_zipIdx, Option.map_map, Nat.add_comm 1 k]
  rfl

theorem length_delivery (rows : List (Except String (Record Cell))) (failure : Option String) :
    (delivery rows failure).length = rows.length + failure.toList.length := by
  rw [delivery, List.length_append, length_numbered, List.length_map]

/-- An item of a delivery is a row with its number, or the failure behind the rows. -/
theorem of_getElem?_delivery {item : RowItem} (h : (delivery rows failure)[k]? = some item) :
    (∃ cells, item = ofCells (k + 1) cells) ∨
      (k = rows.length ∧ ∃ message, failure = some message ∧ item = .failed ⟨k, message⟩) := by
  have count : (numbered rows).length = rows.length := length_numbered rows
  by_cases inside : k < rows.length
  · rw [delivery, List.getElem?_append_left (count ▸ inside), getElem?_numbered,
      List.getElem?_eq_getElem inside] at h
    exact .inl ⟨rows[k], (Option.some.inj h).symm⟩
  · have bound : k < rows.length + failure.toList.length :=
      length_delivery rows failure ▸ (List.getElem?_eq_some_iff.mp h).1
    cases failure with
    | none => exact absurd bound inside
    | some message =>
      have behind : k = rows.length := Nat.le_antisymm (Nat.le_of_lt_succ bound) (Nat.le_of_not_lt inside)
      subst behind
      rw [delivery, List.getElem?_append_right (Nat.le_of_eq count), count, Nat.sub_self] at h
      exact .inr ⟨rfl, message, rfl, (Option.some.inj h).symm⟩

/-- The rows of a delivery are judged up to its failure. -/
theorem rowsOf_numberedAfter (before : Nat) (rows : List (Except String (Record Cell))) (items : List RowItem) :
    (Remaining.rowsOf (numberedAfter before rows ++ items)).length = rows.length + (Remaining.rowsOf items).length ∧
      Remaining.failureOf? (numberedAfter before rows ++ items) = Remaining.failureOf? items := by
  induction rows generalizing before with
  | nil => exact ⟨(Nat.zero_add _).symm, rfl⟩
  | cons r rest ih =>
    obtain ⟨count, failure⟩ := ih (before + 1)
    have more : (rest.length + 1) + (Remaining.rowsOf items).length =
        rest.length + (Remaining.rowsOf items).length + 1 := by omega
    rw [List.length_cons, more, ← count, ← failure]
    cases r <;> exact ⟨rfl, rfl⟩

/-- As many rows are judged as are delivered, and the failure behind them is the one that is met. -/
theorem rowsOf_delivery (rows : List (Except String (Record Cell))) (failure : Option String) :
    (Remaining.rowsOf (delivery rows failure)).length = rows.length ∧
      Remaining.failureOf? (delivery rows failure) = failure.map fun message => ⟨rows.length, message⟩ := by
  have split := rowsOf_numberedAfter 0 rows (failure.toList.map fun message => .failed ⟨rows.length, message⟩)
  cases failure <;> exact split

/-- The failure that is met is the one that the delivery holds. -/
theorem failureOf?_delivery_eq_some {e : FileError} :
    Remaining.failureOf? (delivery rows failure) = some e ↔ failed e ∈ delivery rows failure := by
  rw [(rowsOf_delivery rows failure).2]
  constructor
  · intro met
    obtain ⟨message, rfl, rfl⟩ := Option.map_eq_some_iff.mp met
    exact List.mem_append_right _ (List.mem_singleton.mpr rfl)
  · intro held
    obtain ⟨k, given⟩ := List.mem_iff_getElem?.mp held
    rcases of_getElem?_delivery given with ⟨cells, item⟩ | ⟨rfl, message, rfl, item⟩
    · cases cells <;> cases item
    · cases item
      rfl

end RowItem

/-- Rows that know their numbers are numbered rows. -/
theorem RowItem.numbered_zipIdx {α : Type} (records : List α) (cells : Nat → α → Except String (Record Cell)) :
    numbered ((records.zipIdx 1).map fun (record, index) => cells index record) =
      (records.zipIdx 1).map fun (record, index) => .ofCells index (cells index record) := by
  refine List.ext_getElem? fun k => ?_
  rw [getElem?_numbered, List.getElem?_map, List.getElem?_map, List.getElem?_zipIdx]
  cases records[k]? with
  | none => rfl
  | some record => rw [Nat.add_comm k 1]; rfl

/-- In every format a file delivers numbered rows, and behind them the failure to read on if there is one. -/
theorem Format.rows_eq_delivery (format : Format) (input : Bytes) :
    ∃ rows failure, format.rows input = RowItem.delivery rows failure := by
  cases format with
  | csv =>
    rw [Format.rows, Csv.rows]
    cases Csv.records (Csv.dropByteOrderMark input) with
    | nil => exact ⟨[], none, rfl⟩
    | cons header rest =>
      dsimp only
      cases Csv.texts header.fields with
      | error fault => exact ⟨[], some _, rfl⟩
      | ok names =>
        have rows := RowItem.numbered_zipIdx rest (Csv.cells input (names.map Csv.headerName))
        exact ⟨_, none, (List.append_nil _).symm.trans (congrArg (· ++ []) rows.symm)⟩
  | json =>
    rw [Format.rows, JsonArray.rows]
    cases input.dropWhile JsonRecord.isSpace with
    | nil => exact ⟨[], some _, rfl⟩
    | cons b rest =>
      dsimp only
      split
      · obtain ⟨elements, ending⟩ := JsonArray.split rest
        refine ⟨elements.map JsonRecord.cells, (ending.fault? elements.length).map (·.message), ?_⟩
        rw [JsonArray.rowsOf, RowItem.delivery, List.length_map]
        cases ending <;> rfl
      split
      · rw [JsonArray.singleRow]
        cases Json.parse (b :: rest) with
        | ok j => exact ⟨[JsonRecord.ofJson j], none, rfl⟩
        | error e => exact ⟨[], some _, rfl⟩
      · exact ⟨[], some _, rfl⟩
  | jsonLines => exact ⟨_, none, (List.append_nil _).symm⟩

section Failure

variable {format : Format} {input : Bytes} {e : FileError}

/-- The failure that is met when a file is judged is the one that the file delivers. -/
theorem Format.failureOf?_rows :
    Remaining.failureOf? (format.rows input) = some e ↔ .failed e ∈ format.rows input := by
  obtain ⟨rows, failure, delivered⟩ := format.rows_eq_delivery input
  rw [delivered]
  exact RowItem.failureOf?_delivery_eq_some

/-- A failure tells how many rows are judged. -/
theorem Format.rowsRead_of_failure (h : Remaining.failureOf? (format.rows input) = some e) :
    e.rowsRead = (Remaining.rowsOf (format.rows input)).length := by
  obtain ⟨rows, failure, delivered⟩ := format.rows_eq_delivery input
  obtain ⟨count, failureOf⟩ := RowItem.rowsOf_delivery rows failure
  rw [delivered, failureOf] at h
  obtain ⟨message, -, rfl⟩ := Option.map_eq_some_iff.mp h
  rw [delivered, count]

end Failure

/-! ## The answers of a reader -/

namespace RowStream

/--
What may be relied on when a reader is asked again and again. It comes to an end; up to there rows are
numbered from 1 without a gap, and a failure to read on tells how many there were and is the end.
-/
structure InOrder (s : RowStream) : Prop where
  ends : ∃ n, s.answer n = none
  stays : ∀ k later, s.answer k = none → k ≤ later → s.answer later = none
  row : ∀ k r, s.answer k = some (.row r) → r.index = k + 1
  unreadable : ∀ k e, s.answer k = some (.unreadable e) → e.row = k + 1
  failed : ∀ k e, s.answer k = some (.failed e) → e.rowsRead = k ∧ ∀ later, k < later → s.answer later = none

theorem inOrder_of_delivery {s : RowStream} {rows : List (Except String (Record Cell))} {failure : Option String}
    (h : ∀ k, s.answer k = (RowItem.delivery rows failure)[k]?) : s.InOrder where
  ends := ⟨_, (h _).trans (List.getElem?_eq_none (Nat.le_refl _))⟩
  stays k later none le := by
    rw [h] at none ⊢
    exact List.getElem?_eq_none (Nat.le_trans (List.getElem?_eq_none_iff.mp none) le)
  row k r given := by
    rw [h] at given
    rcases RowItem.of_getElem?_delivery given with ⟨cells, item⟩ | ⟨-, message, -, item⟩
    · cases cells with
      | ok cells => cases item; rfl
      | error message => cases item
    · cases item
  unreadable k e given := by
    rw [h] at given
    rcases RowItem.of_getElem?_delivery given with ⟨cells, item⟩ | ⟨-, message, -, item⟩
    · cases cells with
      | ok cells => cases item
      | error message => cases item; rfl
    · cases item
  failed k e given := by
    rw [h] at given
    rcases RowItem.of_getElem?_delivery given with ⟨cells, item⟩ | ⟨rfl, message, rfl, item⟩
    · cases cells <;> cases item
    · cases item
      refine ⟨rfl, fun later behind => ?_⟩
      rw [h]
      refine List.getElem?_eq_none ?_
      rw [RowItem.length_delivery]
      exact behind

/-- **The reader of a file in any format delivers in order.** -/
theorem inOrder_stream (format : Format) (input : Bytes) : (format.stream input).InOrder := by
  obtain ⟨rows, failure, delivered⟩ := format.rows_eq_delivery input
  exact inOrder_of_delivery fun k => delivered ▸ answer_stream format input k

end RowStream

end RecordGate
