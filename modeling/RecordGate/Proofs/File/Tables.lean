import RecordGate.File.Csv
import RecordGate.Proofs.Csv.Writing
import RecordGate.Proofs.Record
import RecordGate.Proofs.Text.Utf8

/-!
# Reading a written table

A table is a header and records of as many fields, all of them texts. Reading it gives a row for every
record, numbered in order, in which every column holds the text that was written (`Csv.rows_table`).
-/

namespace RecordGate.Csv

theorem textsFrom_encode (first : Nat) (fields : List String) :
    textsFrom first (fields.map Text.encode) = .ok fields := by
  induction fields generalizing first with
  | nil => rfl
  | cons field fields ih =>
    rw [List.map_cons, textsFrom, Text.decode_encode]
    simp only [ih]
    rfl

theorem texts_encode (fields : List String) : texts (fields.map Text.encode) = .ok fields := textsFrom_encode 0 fields

/-- The bytes of a table. -/
def tableBytes (names : List String) (table : List (List String)) : Bytes :=
  writtenRecord (names.map Text.encode) ++ written (table.map (·.map Text.encode))

/-- The cells of a row of a table. -/
def tableCells (names values : List String) : Record Cell := .ofList (names.zip (values.map .text))

variable {names : List String} {table : List (List String)}

/-- The names can stand in a header: they are read as they are written, and no mark of UTF-8 is seen in them. -/
structure IsHeader (names : List String) : Prop where
  filled : names ≠ []
  plain : ∀ n ∈ names, headerName n = n
  unmarked : (writtenRecord (names.map Text.encode)).head? ≠ some 0xEF

instance (names : List String) : Decidable (IsHeader names) :=
  decidable_of_iff (names ≠ [] ∧ (∀ n ∈ names, headerName n = n) ∧
    (writtenRecord (names.map Text.encode)).head? ≠ some 0xEF)
    ⟨fun h => ⟨h.1, h.2.1, h.2.2⟩, fun h => ⟨h.filled, h.plain, h.unmarked⟩⟩

theorem dropByteOrderMark_of_head {input : Bytes} (h : input.head? ≠ some 0xEF) :
    dropByteOrderMark input = input := by
  refine if_neg fun marked => h ?_
  obtain ⟨rest, rfl⟩ := List.isPrefixOf_iff_prefix.mp marked
  rfl

theorem IsHeader.dropByteOrderMark (h : IsHeader names) (table : List (List String)) :
    dropByteOrderMark (tableBytes names table) = tableBytes names table := by
  apply dropByteOrderMark_of_head
  rw [tableBytes, List.head?_append_of_ne_nil]
  · exact h.unmarked
  · simp [writtenRecord]

theorem cells_of_fields (input : Bytes) {values : List String} (width : values.length = names.length) (index : Nat)
    {record : Located} (fields : record.fields = values.map Text.encode) :
    cells input names index record = .ok (tableCells names values) := by
  rw [cells, fields, texts_encode]
  exact if_pos width

/-- The rows of a written table are its records, when its names are read as they are written and nothing is cut. -/
theorem rows_of_plain (filled : names ≠ []) (plain : ∀ n ∈ names, headerName n = n)
    (unmarked : dropByteOrderMark (tableBytes names table) = tableBytes names table)
    (width : ∀ values ∈ table, values.length = names.length) :
    rows (tableBytes names table) = (table.zipIdx 1).map fun entry => .row ⟨entry.2, tableCells names entry.1⟩ := by
  have front : record? (tableBytes names table) =
      some (names.map Text.encode, written (table.map (·.map Text.encode))) :=
    record?_writtenRecord (by simp [filled]) _
  have fields : (records (written (table.map (·.map Text.encode)))).map Located.fields =
      table.map (·.map Text.encode) := by
    apply fields_records_written
    intro record mem
    obtain ⟨values, inTable, rfl⟩ := List.mem_map.mp mem
    have long : 0 < values.length := width values inTable ▸ List.length_pos_iff.mpr filled
    simpa using List.length_pos_iff.mp long
  have same : names.map headerName = names := (List.map_congr_left plain).trans (List.map_id' names)
  rw [rows, unmarked, records_eq, front]
  simp only [texts_encode, same]
  refine List.ext_getElem? fun k => ?_
  have field : (records (written (table.map (·.map Text.encode))))[k]?.map Located.fields =
      table[k]?.map (·.map Text.encode) := by
    rw [← List.getElem?_map, fields, List.getElem?_map]
  rw [rowsUnder, List.getElem?_map, List.getElem?_map, List.getElem?_zipIdx, List.getElem?_zipIdx]
  cases found : table[k]? with
  | none =>
    rw [found, Option.map_none, Option.map_eq_none_iff] at field
    rw [field]
    rfl
  | some values =>
    rw [found, Option.map_some, Option.map_eq_some_iff] at field
    obtain ⟨record, written, fields⟩ := field
    have read := cells_of_fields (tableBytes names table) (width values (List.mem_of_getElem? found)) (1 + k) fields
    rw [written]
    exact congrArg (some <| RowItem.ofCells (1 + k) ·) read

/-- **The rows of a written table are its records**, numbered in order. -/
theorem rows_table (header : IsHeader names) (width : ∀ values ∈ table, values.length = names.length) :
    rows (tableBytes names table) = (table.zipIdx 1).map fun entry => .row ⟨entry.2, tableCells names entry.1⟩ :=
  rows_of_plain header.filled header.plain (header.dropByteOrderMark table) width

/-! ## Names without blanks around them -/

/-- There are names, without blanks around them, and none begins with the mark of UTF-8. -/
structure IsTidy (names : List String) : Prop where
  filled : names ≠ []
  trimmed : ∀ n ∈ names, Text.trim n = n
  unmarked : ∀ n ∈ names, n.toList.head? ≠ some '\uFEFF'

instance (names : List String) : Decidable (IsTidy names) :=
  decidable_of_iff (names ≠ [] ∧ (∀ n ∈ names, Text.trim n = n) ∧ ∀ n ∈ names, n.toList.head? ≠ some '\uFEFF')
    ⟨fun h => ⟨h.1, h.2.1, h.2.2⟩, fun h => ⟨h.filled, h.trimmed, h.unmarked⟩⟩

/-- The order of the names does not matter. -/
theorem IsTidy.of_perm {others : List String} (tidy : IsTidy names) (perm : others.Perm names) : IsTidy others where
  filled none := tidy.filled (List.perm_nil.mp (none ▸ perm.symm))
  trimmed n hn := tidy.trimmed n (perm.mem_iff.mp hn)
  unmarked n hn := tidy.unmarked n (perm.mem_iff.mp hn)

theorem headerName_of_trimmed {name : String} (trimmed : Text.trim name = name)
    (unmarked : name.toList.head? ≠ some '\uFEFF') : headerName name = name := by
  have kept : name.toList.dropWhile (· == '\uFEFF') = name.toList := by
    cases form : name.toList with
    | nil => rfl
    | cons c cs =>
      rw [form] at unmarked
      exact List.dropWhile_cons_of_neg (by simpa using unmarked)
  rw [headerName, kept, String.ofList_toList, trimmed]

/-- Bytes that begin with the mark are those of a text that does, or of no text at all. -/
theorem head?_of_marked {name : String} {rest : Bytes} (marked : byteOrderMark <+: Text.encode name ++ rest) :
    name = "" ∨ name.toList.head? = some '\uFEFF' := by
  obtain ⟨tail, same⟩ := marked
  cases form : name.toList with
  | nil => exact .inl (String.toList_eq_nil_iff.mp form)
  | cons c cs =>
    have first := Text.decodeChar?_append '\uFEFF' tail
    rw [show String.utf8EncodeChar '\uFEFF' = byteOrderMark from by decide, same, Text.encode_eq, form,
      List.flatMap_cons, List.append_assoc, Text.decodeChar?_append] at first
    exact .inr (congrArg (Option.map Prod.fst) first)

theorem joined_cons_cons (field next : Bytes) (more : List Bytes) :
    joined (field :: next :: more) = writtenField field ++ comma :: joined (next :: more) := rfl

/-- A record begins with a quote, or with its first field and what ends it. -/
theorem writtenRecord_front (field : Bytes) (more : List Bytes) :
    (∃ after, writtenRecord (field :: more) = quote :: after) ∨
      ∃ b after, writtenRecord (field :: more) = field ++ b :: after ∧ b ≠ 0xEF := by
  cases quoted : needsQuotes field with
  | true =>
    have front : writtenField field = quote :: (doubled field ++ [quote]) := if_pos quoted
    cases more with
    | nil => exact .inl ⟨_, by rw [writtenRecord, joined, front]; rfl⟩
    | cons next more => exact .inl ⟨_, by rw [writtenRecord, joined_cons_cons, front]; rfl⟩
  | false =>
    have front : writtenField field = field := if_neg (by rw [quoted]; exact Bool.false_ne_true)
    cases more with
    | nil =>
      rw [writtenRecord, joined, front]
      cases field with
      | nil => exact .inl ⟨_, rfl⟩
      | cons c cs => exact .inr ⟨lineFeed, [], rfl, by decide⟩
    | cons next more =>
      rw [writtenRecord, joined_cons_cons, front]
      cases field with
      | nil => exact .inr ⟨comma, _, rfl, by decide⟩
      | cons c cs => exact .inr ⟨comma, _, List.append_assoc .., by decide⟩

/-- No mark of UTF-8 is seen in front of a table with tidy names. -/
theorem IsTidy.dropByteOrderMark (tidy : IsTidy names) (table : List (List String)) :
    dropByteOrderMark (tableBytes names table) = tableBytes names table := by
  obtain ⟨name, more, rfl⟩ := List.exists_cons_of_ne_nil tidy.filled
  refine if_neg fun marked => ?_
  have marked := List.isPrefixOf_iff_prefix.mp marked
  rw [tableBytes, List.map_cons] at marked
  have first {b : UInt8} {rest : Bytes} (h : byteOrderMark <+: b :: rest) : b = 0xEF := by
    obtain ⟨tail, same⟩ := h
    exact (List.cons.inj same).1.symm
  rcases writtenRecord_front (Text.encode name) (more.map Text.encode) with ⟨after, form⟩ | ⟨b, after, form, other⟩
  · rw [form] at marked
    exact absurd (first marked) (by decide)
  · rw [form, List.append_assoc] at marked
    rcases head?_of_marked marked with rfl | starts
    · exact other (first marked)
    · exact tidy.unmarked name List.mem_cons_self starts

/-- **The rows of a table with tidy names are its records**, numbered in order. -/
theorem rows_tidy (tidy : IsTidy names) (width : ∀ values ∈ table, values.length = names.length) :
    rows (tableBytes names table) = (table.zipIdx 1).map fun entry => .row ⟨entry.2, tableCells names entry.1⟩ :=
  rows_of_plain tidy.filled (fun n hn => headerName_of_trimmed (tidy.trimmed n hn) (tidy.unmarked n hn))
    (tidy.dropByteOrderMark table) width

/-! ## Cells by the names of their columns -/

theorem tableCells_map (names : List String) (text : String → String) :
    tableCells names (names.map text) = .ofList (names.map fun n => (n, .text (text n))) := by
  rw [tableCells, List.map_map, ← List.map_prod_left_eq_zip]
  rfl

theorem get?_tableCells (distinct : names.Nodup) (text : String → String) {name : String} (h : name ∈ names) :
    (tableCells names (names.map text)).get? name = some (.text (text name)) := by
  rw [tableCells_map, Record.ofList, List.foldl_map]
  exact Record.get?_fill (by rwa [List.map_id']) h

/-- A row of a table has no other columns than those of the table. -/
theorem mem_of_tableCells (text : String → String) {e : String × Cell}
    (h : e ∈ (tableCells names (names.map text)).entries) : e.1 ∈ names := by
  by_contra other
  have held := Record.mem_entries_iff.mp h
  rw [tableCells_map, Record.ofList, List.foldl_map, Record.get?_fill_of_notMem (by rwa [List.map_id'])] at held
  cases held

/-- A row of a table whose names are those of a record holds what was written for the record. -/
theorem tableCells_of_perm {α : Type} {r : Record α} (perm : r.names.Perm names) (write : α → String) :
    tableCells names (names.map fun n => ((r.get? n).map write).getD "") = r.map fun value => .text (write value) := by
  have distinct : names.Nodup := perm.nodup_iff.mp r.nodup_names
  refine Record.ext_get? fun name => ?_
  rw [Record.get?_map]
  by_cases inside : name ∈ names
  · obtain ⟨value, found⟩ := Record.mem_names_iff.mp (perm.mem_iff.mpr inside)
    rw [get?_tableCells distinct (fun n => ((r.get? n).map write).getD "") inside, found]
    rfl
  · have absent : r.get? name = none := by
      refine Option.eq_none_iff_forall_ne_some.mpr fun value found => ?_
      exact inside (perm.mem_iff.mp (Record.mem_names_iff.mpr ⟨value, found⟩))
    rw [absent, tableCells_map, Record.ofList, List.foldl_map, Record.get?_fill_of_notMem (by rwa [List.map_id'])]
    rfl

end RecordGate.Csv
