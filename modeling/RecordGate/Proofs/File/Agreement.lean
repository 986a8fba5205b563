import RecordGate.Proofs.File.Splitting
import RecordGate.Proofs.File.Tables
import RecordGate.Proofs.Json.RoundTrip

/-!
# The formats agree

Values that are written without blanks, as the items of an array or each on a line of its own, are cut apart again
where they were put together (`givesItems_array`, `givesItems_lines`). What a reader answers is told by the texts
alone (`GivesItems.row_iff`), so both answer the same rows. Records of texts under the same names can stand in a
table as well, and are answered as the same rows again (`Format.agree`).
-/

namespace RecordGate

open Json (Piece Clean)
open JsonRecord (isSpace)
open JsonArray (GivesItem IsElement)

/-! ## Lines -/

namespace JsonLines

/-- Texts, each on a line of its own; the last line may lack its line break. -/
def linesBytes (closed : Bool) (texts : List Bytes) : Bytes :=
  [0x0A].intercalate texts ++ if closed then [0x0A] else []

variable {t : Bytes}

/-- A line ends at the first line break. -/
theorem lineFrom_clean (clean : Clean t) (line rest : Bytes) :
    lineFrom line (t ++ 0x0A :: rest) = (line.reverse ++ t ++ [0x0A], rest) ∧
      lineFrom line t = (line.reverse ++ t, []) := by
  induction t generalizing line with
  | nil => exact ⟨by simp [lineFrom], by simp [lineFrom]⟩
  | cons b t ih =>
    obtain ⟨first, others⟩ := List.forall_mem_cons.mp clean
    have within : ¬(b == 0x0A) = true := by
      intro same
      rw [beq_iff_eq.mp same] at first
      exact absurd first (by decide)
    obtain ⟨before, atEnd⟩ := ih others (b :: line)
    rw [List.cons_append, lineFrom, if_neg within, before, lineFrom, if_neg within, atEnd, List.reverse_cons]
    simp

theorem records_nil : records [] = [] := rfl

theorem records_line (filled : t.all isSpace = false) (clean : Clean t) (rest : Bytes) :
    records (t ++ 0x0A :: rest) = (t ++ [0x0A]) :: records rest := by
  have cut := filter_linesFrom [] (t ++ 0x0A :: rest)
  have blank : ¬(t ++ [0x0A]).all isSpace = true := by simp [filled]
  rw [(lineFrom_clean clean [] rest).1, List.reverse_nil, List.nil_append] at cut
  exact cut.trans (if_neg blank)

theorem records_last (filled : t.all isSpace = false) (clean : Clean t) : records t = [t] := by
  have cut := filter_linesFrom [] t
  have blank : ¬t.all isSpace = true := by simp [filled]
  rw [(lineFrom_clean clean [] []).2, List.reverse_nil, List.nil_append, records_nil] at cut
  exact cut.trans (if_neg blank)

/-- The records of a file with a text on each line are these texts, with gaps around them. -/
theorem records_linesBytes (closed : Bool) {texts : List Bytes}
    (h : ∀ t ∈ texts, t.all isSpace = false ∧ Clean t) :
    ∃ pieces : List Piece, records (linesBytes closed texts) = pieces.map Piece.bytes ∧
      pieces.map Piece.text = texts := by
  let ended (t : Bytes) : Piece := ⟨[], t, [0x0A], rfl, rfl⟩
  induction texts with
  | nil =>
    refine ⟨[], ?_, rfl⟩
    cases closed <;> rfl
  | cons t rest ih =>
    obtain ⟨⟨filled, clean⟩, others⟩ := List.forall_mem_cons.mp h
    cases rest with
    | nil =>
      cases closed with
      | true =>
        have form : linesBytes true [t] = t ++ 0x0A :: [] := by simp [linesBytes, List.intercalate]
        exact ⟨[ended t], by rw [form, records_line filled clean, records_nil]; rfl, rfl⟩
      | false =>
        have form : linesBytes false [t] = t := by simp [linesBytes, List.intercalate]
        exact ⟨[.bare t], by rw [form, records_last filled clean, List.map_singleton, Piece.bytes_bare], rfl⟩
    | cons u rest =>
      obtain ⟨pieces, read, same⟩ := ih others
      have form : linesBytes closed (t :: u :: rest) = t ++ 0x0A :: linesBytes closed (u :: rest) := by
        simp [linesBytes, List.intercalate]
      exact ⟨ended t :: pieces, by rw [form, records_line filled clean, read]; rfl, by rw [List.map_cons, same]⟩

end JsonLines

/-! ## Items of texts -/

section Items

variable {reader other : RowStream} {texts : List Bytes}

/-- A reader answers an item for each text, one after the other, and then none. -/
structure GivesItems (reader : RowStream) (texts : List Bytes) : Prop where
  items : ∀ k t, texts[k]? = some t → ∃ item, reader.answer k = some item ∧ GivesItem (k + 1) t item
  ends : ∀ k, texts.length ≤ k → reader.answer k = none

theorem givesItems_of_pieces {format : Format} {input : Bytes} (pieces : List Piece)
    (h : format.rows input = RowItem.numbered (pieces.map fun p => JsonRecord.cells p.bytes)) :
    GivesItems (format.stream input) (pieces.map Piece.text) := by
  have answer (k : Nat) : (format.stream input).answer k =
      pieces[k]?.map fun p => .ofCells (k + 1) (JsonRecord.cells p.bytes) := by
    rw [RowStream.answer_stream, h, RowItem.getElem?_numbered, List.getElem?_map, Option.map_map]
    rfl
  refine ⟨fun k t here => ?_, fun k behind => ?_⟩
  · rw [List.getElem?_map] at here
    obtain ⟨p, found, rfl⟩ := Option.map_eq_some_iff.mp here
    exact ⟨_, by rw [answer, found, Option.map_some], JsonArray.givesItem_cells p (k + 1)⟩
  · rw [List.length_map] at behind
    rw [answer, List.getElem?_eq_none behind, Option.map_none]

/-- A row that is answered is that of an object. -/
theorem GivesItems.row_iff (h : GivesItems reader texts) (k : Nat) (row : RawRow) :
    reader.answer k = some (.row row) ↔ ∃ t members, texts[k]? = some t ∧ Json.parse t = .ok (.obj members) ∧
      row = ⟨k + 1, .ofList (members.map fun m => (m.1, JsonRecord.cell m.2))⟩ := by
  constructor
  · intro answer
    cases here : texts[k]? with
    | none =>
      rw [h.ends k (List.getElem?_eq_none_iff.mp here)] at answer
      cases answer
    | some t =>
      obtain ⟨item, given, gives⟩ := h.items k t here
      obtain rfl : item = .row row := Option.some.inj (given.symm.trans answer)
      by_cases object : ∃ members, Json.parse t = .ok (.obj members)
      · obtain ⟨members, object⟩ := object
        obtain ⟨cells, read, same⟩ := gives.row members object
        cases read
        cases same
        exact ⟨t, members, rfl, object, rfl⟩
      · obtain ⟨message, none⟩ := gives.unreadable fun members object' => object ⟨members, object'⟩
        cases none
  · rintro ⟨t, members, here, object, rfl⟩
    obtain ⟨item, given, gives⟩ := h.items k t here
    obtain ⟨cells, read, rfl⟩ := gives.row members object
    cases read
    exact given

/-- Readers that answer the items of the same texts answer the same rows. -/
theorem GivesItems.same_rows (h : GivesItems reader texts) (h' : GivesItems other texts) (k : Nat) (row : RawRow) :
    reader.answer k = some (.row row) ↔ other.answer k = some (.row row) :=
  (h.row_iff k row).trans (h'.row_iff k row).symm

/-- A record as an object. -/
def Json.ofRecord (r : Record Json) : Json := .obj r.entries

/-- A record that can be read back is a row of its cells. -/
theorem GivesItems.row_of_readable (h : GivesItems reader texts) {k : Nat} {r : Record Json}
    (here : texts[k]? = some (Json.ofRecord r).written) (readable : Json.Readable Json.maxDepth (.ofRecord r)) :
    reader.answer k = some (.row ⟨k + 1, r.map JsonRecord.cell⟩) := by
  refine (h.row_iff k _).mpr ⟨_, r.entries, here, Json.parse_written readable, ?_⟩
  rw [← (r.map JsonRecord.cell).ofList_entries]
  rfl

end Items

/-! ## Values in an array and on lines -/

theorem isElement_written (j : Json) : IsElement j.written := by
  obtain ⟨depth, isValue⟩ := Json.exists_isValue j
  exact JsonArray.isElement_of_isValue isValue

theorem cutOff_bare (texts : List Bytes) : JsonArray.cutOff (texts.map Piece.bare) = texts.map Piece.bare := by
  cases texts <;> rfl

/-- An array is read item by item. -/
theorem givesItems_array (items : List Json) :
    GivesItems (Format.json.stream (Json.arr items).written) (items.map Json.written) := by
  let pieces := items.map fun j => Piece.bare j.written
  have elements : ∀ p ∈ pieces, IsElement p.text := by
    intro p mem
    obtain ⟨j, -, rfl⟩ := List.mem_map.mp mem
    exact isElement_written j
  have whole : JsonArray.cutOff pieces = pieces := by
    have bare := cutOff_bare (items.map Json.written)
    rwa [List.map_map] at bare
  have form : (Json.arr items).written = Json.arrayBytes [] [] [] pieces := Json.written_arr items
  have rows : Format.json.rows (Json.arr items).written =
      RowItem.numbered (pieces.map fun p => JsonRecord.cells p.bytes) := by
    rw [form, Format.rows, JsonArray.rows_arrayBytes Json.isGap_nil Json.isGap_nil Json.isGap_nil elements, whole]
  have given := givesItems_of_pieces pieces rows
  rwa [List.map_map] at given

/-- Lines are read one by one. -/
theorem givesItems_lines (closed : Bool) (items : List Json) :
    GivesItems (Format.jsonLines.stream (JsonLines.linesBytes closed (items.map Json.written)))
      (items.map Json.written) := by
  have texts : ∀ t ∈ items.map Json.written, t.all isSpace = false ∧ Clean t := by
    intro t mem
    obtain ⟨j, -, rfl⟩ := List.mem_map.mp mem
    have filled := (isElement_written j).notBlank (p := .bare j.written)
    rw [Piece.bytes_bare] at filled
    exact ⟨filled, Json.clean_written j⟩
  obtain ⟨pieces, read, same⟩ := JsonLines.records_linesBytes closed texts
  rw [← same] at read ⊢
  refine givesItems_of_pieces pieces ?_
  change RowItem.numbered ((JsonLines.records _).map JsonRecord.cells) = _
  rw [read, List.map_map]
  rfl

/-! ## Tables -/

/-- A table of records under a header, every text in the column of its name. -/
def tableOf (names : List String) (records : List (Record String)) : Bytes :=
  Csv.tableBytes names (records.map fun r => names.map fun n => (r.get? n).getD "")

theorem answer_tableOf {names : List String} {records : List (Record String)} (tidy : Csv.IsTidy names)
    (named : ∀ r ∈ records, r.names.Perm names) (k : Nat) :
    (Format.csv.stream (tableOf names records)).answer k =
      records[k]?.map fun r => .row ⟨k + 1, r.map .text⟩ := by
  have width : ∀ values ∈ records.map fun r => names.map fun n => (r.get? n).getD "",
      values.length = names.length := by
    intro values mem
    obtain ⟨r, -, rfl⟩ := List.mem_map.mp mem
    exact List.length_map _
  rw [RowStream.answer_stream, tableOf, Format.rows, Csv.rows_tidy tidy width, List.getElem?_map,
    List.getElem?_zipIdx, List.getElem?_map, Option.map_map, Option.map_map, Nat.add_comm 1 k]
  refine Option.map_congr fun r found => ?_
  have cells := Csv.tableCells_of_perm (named r (List.mem_of_getElem? found)) fun text => text
  simp only [Option.map_id'] at cells
  exact congrArg (fun cells => RowItem.row ⟨k + 1, cells⟩) cells

/-- A record of texts can be read back. -/
theorem readable_texts (r : Record String) : Json.Readable Json.maxDepth (.ofRecord (r.map Json.str)) := by
  refine .obj (r.map Json.str).ascending fun m mem => ?_
  obtain ⟨e, -, rfl⟩ := List.mem_map.mp mem
  exact .str e.2

/-- Records of texts are answered as rows of these texts. -/
theorem GivesItems.answer_texts {reader : RowStream} {records : List (Record String)}
    (h : GivesItems reader ((records.map fun r => Json.ofRecord (r.map Json.str)).map Json.written)) (k : Nat) :
    reader.answer k = records[k]?.map fun r => .row ⟨k + 1, r.map .text⟩ := by
  cases found : records[k]? with
  | none =>
    refine h.ends k ?_
    rw [List.length_map, List.length_map]
    exact List.getElem?_eq_none_iff.mp found
  | some r =>
    have here : ((records.map fun r => Json.ofRecord (r.map Json.str)).map Json.written)[k]? =
        some (Json.ofRecord (r.map Json.str)).written := by
      rw [List.getElem?_map, List.getElem?_map, found]
      rfl
    have row := h.row_of_readable here (readable_texts r)
    rw [Record.map_map] at row
    exact row

/--
**The formats agree.** Records as the objects of one array, and the same objects each on a line, are answered as the
same rows under the same numbers: an item for each object and then none. An object that can be read back is the row
of its cells.

Where all values are texts and all records have the same names, without blanks around them, a table of the records
under these names is answered as the same rows too, whatever the order of its columns.
-/
theorem Format.agree :
    (∀ (records : List (Record Json)) (closed : Bool),
      let items := records.map Json.ofRecord
      let texts := items.map Json.written
      let array := Format.json.stream (Json.arr items).written
      let lines := Format.jsonLines.stream (JsonLines.linesBytes closed texts)
      (∀ k row, array.answer k = some (.row row) ↔ lines.answer k = some (.row row)) ∧
        GivesItems array texts ∧ GivesItems lines texts ∧
        ∀ k r, records[k]? = some r → Json.Readable Json.maxDepth (.ofRecord r) →
          array.answer k = some (.row ⟨k + 1, r.map JsonRecord.cell⟩) ∧
            lines.answer k = some (.row ⟨k + 1, r.map JsonRecord.cell⟩)) ∧
      ∀ (names : List String) (records : List (Record String)) (closed : Bool), Csv.IsTidy names →
        (∀ r ∈ records, r.names.Perm names) →
          let items := records.map fun r => Json.ofRecord (r.map Json.str)
          ∀ k, let row := records[k]?.map fun r => RowItem.row ⟨k + 1, r.map .text⟩
            (Format.csv.stream (tableOf names records)).answer k = row ∧
            (Format.json.stream (Json.arr items).written).answer k = row ∧
            (Format.jsonLines.stream (JsonLines.linesBytes closed (items.map Json.written))).answer k = row := by
  constructor
  · intro records closed items texts array lines
    have fromArray : GivesItems array texts := givesItems_array items
    have fromLines : GivesItems lines texts := givesItems_lines closed items
    refine ⟨fromArray.same_rows fromLines, fromArray, fromLines, fun k r found readable => ?_⟩
    have here : texts[k]? = some (Json.ofRecord r).written := by
      rw [List.getElem?_map, List.getElem?_map, found]
      rfl
    exact ⟨fromArray.row_of_readable here readable, fromLines.row_of_readable here readable⟩
  · intro names records closed tidy named items k row
    exact ⟨answer_tableOf tidy named k, (givesItems_array items).answer_texts k,
      (givesItems_lines closed items).answer_texts k⟩

/-- Brackets, commas, quotes and line breaks in texts, and a table with its columns in another order. -/
theorem Format.agree_on_punctuation :
    let record : Record Json := .ofList [("a", .arr [.num (.whole (-7)), .str "],\n\"\\"]), ("b", .obj [])]
    let row : Record String := .ofList [("x", "1,\n\"2\""), ("y", "")]
    let items := [Json.ofRecord record]
    let texts := [Json.ofRecord (row.map Json.str)]
    Json.Readable Json.maxDepth (.ofRecord record) ∧
      (Format.json.stream (Json.arr items).written).answer 0 = some (.row ⟨1, record.map JsonRecord.cell⟩) ∧
      (Format.jsonLines.stream (JsonLines.linesBytes true (items.map Json.written))).answer 0 =
        some (.row ⟨1, record.map JsonRecord.cell⟩) ∧
      Csv.IsTidy ["y", "x"] ∧ row.names.Perm ["y", "x"] ∧
      (Format.csv.stream (tableOf ["y", "x"] [row])).answer 0 = some (.row ⟨1, row.map .text⟩) ∧
      (Format.json.stream (Json.arr texts).written).answer 0 = some (.row ⟨1, row.map .text⟩) ∧
      (Format.jsonLines.stream (JsonLines.linesBytes false (texts.map Json.written))).answer 0 =
        some (.row ⟨1, row.map .text⟩) := by
  intro record row items texts
  have readable : Json.Readable Json.maxDepth (.ofRecord record) := by
    refine .obj record.ascending fun m mem => ?_
    have number : (Json.Number.whole (-7)).ReadsBack := Json.readsBack_whole (by decide) (by decide)
    have entries : record.entries = [("a", .arr [.num (.whole (-7)), .str "],\n\"\\"]), ("b", .obj [])] := by rfl
    rw [entries] at mem
    simp only [List.mem_cons, List.not_mem_nil, or_false] at mem
    rcases mem with rfl | rfl
    · exact .arr (List.forall_mem_cons.mpr ⟨.num number, List.forall_mem_singleton.mpr (.str _)⟩)
    · exact .obj .nil nofun
  have tidy : Csv.IsTidy ["y", "x"] := by decide
  have named : ∀ r ∈ [row], r.names.Perm ["y", "x"] := by decide
  obtain ⟨-, -, -, rows⟩ := Format.agree.1 [record] true
  obtain ⟨fromArray, fromLines⟩ := rows 0 record rfl readable
  obtain ⟨fromTable, array, lines⟩ := Format.agree.2 ["y", "x"] [row] false tidy named 0
  exact ⟨readable, fromArray, fromLines, tidy, named row List.mem_cons_self, fromTable, array, lines⟩

end RecordGate
