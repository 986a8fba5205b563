import Mathlib.Data.List.Forall2
import RecordGate.Pattern.Reader
import RecordGate.Proofs.File.Tables
import RecordGate.Proofs.Schema.Rereading
import RecordGate.Proofs.Schema.Resolving
import RecordGate.Proofs.Warehouse.Files
import RecordGate.Schema.Builtin

/-!
# Exported tables are read back

A table of a warehouse of CSV files can be delivered as a file again. Its columns are the fields of the schema
under their own names, so each of them is found for its field (`Schema.get?_resolve`), whatever the texts in
it; and what is written for a value is checked to be that value. So a table that was loaded from rows without
critical errors gives these rows again (`Schema.export_reads_back`).
-/

namespace RecordGate

/-! ## Columns under the names of fields -/

namespace Schema

variable {engine : Pattern.Engine} {schema : Schema}

theorem cells_foldl_resolveColumn (entries : List (String × Cell)) (direct : ∀ e ∈ entries, schema.Direct e.1)
    (r : Resolved) :
    (entries.foldl schema.resolveColumn r).cells = entries.foldl (fun cells e => cells.set e.1 e.2) r.cells := by
  induction entries generalizing r with
  | nil => rfl
  | cons e entries ih =>
    obtain ⟨⟨own, target⟩, direct⟩ := List.forall_mem_cons.mp direct
    have first : schema.resolveColumn r e = ⟨r.cells.set e.1 e.2, e.1 :: r.direct⟩ := by
      simp [resolveColumn, own, target]
    rw [List.foldl_cons, List.foldl_cons, first, ih direct]

/-- Where every column has the name of a field, each field gets the cell under its name. -/
theorem get?_resolve {row : RawRow} (direct : ∀ e ∈ row.cells.entries, schema.Direct e.1) (name : String) :
    (schema.resolve row).get? name = row.cells.get? name := by
  rw [resolve, cells_foldl_resolveColumn _ direct]
  exact Record.get?_refill row.cells name

/-! ## Exporting -/

/-- The fields can be the columns of a table, and are found under their own names when it is read. -/
structure Portable (schema : Schema) : Prop where
  distinct : schema.fieldNames.Nodup
  header : Csv.IsHeader schema.fieldNames
  direct : ∀ name ∈ schema.fieldNames, schema.Direct name

/-- The text that a table has for a row in a column. -/
def exportedText (row : TableRow) (column : String) : String := ((row.get? column).map Value.written).getD ""

theorem recordOf_eq (columns : List String) (row : TableRow) :
    TableFiles.recordOf columns row = (columns.map (exportedText row)).map Text.encode := by
  rw [List.map_map]
  rfl

/-- The row that is read where the values of a row were written. -/
def exportedRow (schema : Schema) (values : TableRow) (index : Nat) : RawRow :=
  ⟨index, Csv.tableCells schema.fieldNames (schema.fieldNames.map (exportedText values))⟩

/-- **A row without critical errors is read back from the table** as it was checked. -/
theorem check_exportedRow (portable : schema.Portable) {row : RawRow} {asOf : Date}
    (clean : (schema.check engine row asOf).hasCritical = false) (index : Nat) :
    (schema.check engine row asOf).SameIn index
      (schema.check engine (schema.exportedRow (schema.check engine row asOf).values index) asOf) := by
  change (schema.check engine row asOf).SameIn (schema.exportedRow (schema.check engine row asOf).values index).index _
  apply check_written portable.distinct clean
  intro f mem v value
  have declared : f.name ∈ schema.fieldNames := List.mem_map_of_mem mem
  rw [get?_resolve fun e inside => portable.direct _ (Csv.mem_of_tableCells _ inside)]
  rw [exportedRow, Csv.get?_tableCells portable.distinct _ declared, exportedText, value]
  rfl

/-- The bytes of a table that holds the rows are read as these rows. -/
theorem rows_exported (portable : schema.Portable) (rows : List TableRow) :
    Csv.rows (Csv.writtenRecord (schema.fieldNames.map Text.encode) ++
        Csv.written (rows.map (TableFiles.recordOf schema.fieldNames))) =
      (rows.zipIdx 1).map fun entry => .row (schema.exportedRow entry.1 entry.2) := by
  have width : ∀ values ∈ rows.map (schema.fieldNames.map <| exportedText ·),
      values.length = schema.fieldNames.length := by
    intro values mem
    obtain ⟨row, -, rfl⟩ := List.mem_map.mp mem
    exact List.length_map ..
  have read := Csv.rows_table portable.header width
  rw [Csv.tableBytes, List.map_map, List.zipIdx_map, List.map_map] at read
  rw [funext (recordOf_eq schema.fieldNames)]
  exact read

/--
The checked values of rows, staged in groups in an empty directory. The columns are those of the schema.
-/
def stagedExport (schema : Schema) (engine : Pattern.Engine) (d : Directory) (asOf : Date) (load : LoadId)
    (groups : List (List RawRow)) : Except LoadError Nat × TableFiles :=
  TableFiles.stageAll d load schema.table
    (groups.map fun group => group.map fun row => (schema.check engine row asOf).values)
    ((TableFiles.ofFiles .empty).withColumns schema.table schema.fieldNames)

/-- The same, committed. -/
def committedExport (schema : Schema) (engine : Pattern.Engine) (d : Directory) (asOf : Date) (load : LoadId)
    (groups : List (List RawRow)) : Except LoadError Nat × TableFiles :=
  TableFiles.commit d load schema.table (schema.stagedExport engine d asOf load groups).2

/-- What it means that the rows of an export come back. -/
structure ReadsBack (schema : Schema) (engine : Pattern.Engine) (d : Directory) (asOf : Date) (load : LoadId)
    (groups : List (List RawRow)) : Prop where
  staged : (schema.stagedExport engine d asOf load groups).1 = .ok groups.flatten.length
  committed : (schema.committedExport engine d asOf load groups).1 = .ok groups.flatten.length
  /--
  The file of the table holds rows and no errors, as many as were exported; each has the number of its place,
  and checked on the same day it has the values and the errors of the row at this place.
  -/
  rows : ∃ again : List RawRow,
    Csv.rows ((schema.committedExport engine d asOf load groups).2.content d (TableFiles.tableName schema.table)) =
        again.map .row ∧
      List.Forall₂ (fun before after => after.index = before.2 ∧
          (schema.check engine before.1 asOf).SameIn before.2 (schema.check engine after asOf))
        (groups.flatten.zipIdx 1) again

/-- Rows without critical errors come back under every portable schema whose table has a plain name. -/
theorem Portable.readsBack (portable : schema.Portable) {d : Directory} (holds : TableFiles.HoldsTables d) {asOf : Date}
    {load : LoadId} {groups : List (List RawRow)} (plain : TableFiles.IsPlainName schema.table) (small : load < 2 ^ 64)
    (filled : groups.flatten ≠ [])
    (clean : ∀ row ∈ groups.flatten, (schema.check engine row asOf).hasCritical = false) :
    schema.ReadsBack engine d asOf load groups := by
  let values (row : RawRow) : TableRow := (schema.check engine row asOf).values
  let start := (TableFiles.ofFiles .empty).withColumns schema.table schema.fieldNames
  have all : (groups.map (·.map values)).flatten = groups.flatten.map values := List.map_flatten.symm
  obtain ⟨shown, lain, placed, lies, apart⟩ := holds load schema.table plain small
  obtain ⟨counted, staged⟩ := TableFiles.Staging.stageAll lies (groups.map (·.map values))
    (TableFiles.staging_start start (Record.get?_set_self ..) rfl rfl)
  rw [List.nil_append, all] at staged
  rw [all, List.length_map] at counted
  obtain ⟨committed, content⟩ := staged.commit (by simpa using filled) placed lies apart
  rw [← TableFiles.content_of_place placed] at content
  rw [List.length_map] at committed
  refine ⟨counted, committed,
    (groups.flatten.zipIdx 1).map fun entry => schema.exportedRow (values entry.1) entry.2, ?_, ?_⟩
  · have read := rows_exported portable (groups.flatten.map values)
    rw [List.zipIdx_map] at read
    refine (congrArg Csv.rows content).trans (read.trans ?_)
    rw [List.map_map, List.map_map]
    rfl
  · rw [List.forall₂_map_right_iff, List.forall₂_same]
    intro entry mem
    have inside : entry.1 ∈ groups.flatten := (List.mem_zipIdx mem).2.2 ▸ List.getElem_mem _
    exact ⟨rfl, check_exportedRow portable (clean entry.1 inside) entry.2⟩

/-- The fields of the built-in schemas can be the columns of a table. -/
theorem portable_builtin (t : RecordType) : (builtin t).Portable := by
  cases t with
  | sales => exact ⟨by decide +kernel, by decide +kernel, by decide +kernel⟩
  | inventory => exact ⟨by decide +kernel, by decide +kernel, by decide +kernel⟩
  | expense => exact ⟨by decide +kernel, by decide +kernel, by decide +kernel⟩

/--
**An exported table is read back exactly.** Let rows have no critical error under the built-in schema of a record
type. Let their values be staged in any grouping, under a load with a number of 64 bits, and committed to an empty
directory that holds tables. Then the file of the table gives as many rows in the same order, and no error of a row or
of the file; and each row, checked on the same day, has the same values and the same errors, but for the number of the
row.
-/
theorem export_reads_back (engine : Pattern.Engine) {d : Directory} (holds : TableFiles.HoldsTables d) (t : RecordType)
    (asOf : Date) (load : LoadId) (small : load < 2 ^ 64) (groups : List (List RawRow)) (filled : groups.flatten ≠ [])
    (clean : ∀ row ∈ groups.flatten, ((builtin t).check engine row asOf).hasCritical = false) :
    (builtin t).ReadsBack engine d asOf load groups := by
  have plain : TableFiles.IsPlainName (builtin t).table := by
    cases t with
    | sales => decide +kernel
    | inventory => decide +kernel
    | expense => decide +kernel
  exact (portable_builtin t).readsBack holds plain small filled clean

/--
Two expenses staged apart: a description with a sign, a comma, quotes and a line feed, which is too short and is
warned of; a number with zeros at its end; columns under aliases and a column that no field knows.
-/
theorem export_reads_back_two_expenses :
    let engine : Pattern.Engine := .common
    let d : Directory := .inTree ["tmp", "tables"] []
    let asOf : Date := ⟨2024, 2, 29, by decide⟩
    let quoted : RawRow := ⟨7, .ofList [
      ("exp_id", .text "EXP-20240131-001"), ("date", .text " 2024-1-31 "), ("category", .text "MISC"),
      ("cost", .number ⟨false, 1500, 3, by decide, by decide⟩), ("description", .text "=\"a\", b\n-"),
      ("approved_by", .text "Ann"), ("remark", .text "?")]⟩
    let plain : RawRow := ⟨9, .ofList [
      ("expense_id", .text "EXP-20240228-002"), ("date", .text "2024-02-28"), ("category", .text "RENT"),
      ("amount", .text "1e3"), ("description", .text "Rent for March"), ("approved_by", .number .one),
      ("justification", .null)]⟩
    let groups := [[quoted], [], [plain]]
    TableFiles.HoldsTables d ∧ (1 : LoadId) < 2 ^ 64 ∧ groups.flatten ≠ [] ∧
      (∀ row ∈ groups.flatten, ((builtin .expense).check engine row asOf).hasCritical = false) ∧
      ((builtin .expense).check engine quoted asOf).errors.length = 1 ∧
      (builtin .expense).ReadsBack engine d asOf 1 groups := by
  intro engine d asOf quoted plain groups
  have holds : TableFiles.HoldsTables d :=
    TableFiles.holdsTables_inTree (List.cons_ne_nil _ _) (by decide +kernel) (by decide +kernel) nofun
  have small : (1 : LoadId) < 2 ^ 64 := by decide
  have filled : groups.flatten ≠ [] := List.cons_ne_nil _ _
  have clean : ∀ row ∈ groups.flatten, ((builtin .expense).check engine row asOf).hasCritical = false := by
    decide +kernel
  exact ⟨holds, small, filled, clean, by decide +kernel,
    export_reads_back engine holds .expense asOf 1 small groups filled clean⟩

end Schema

end RecordGate
