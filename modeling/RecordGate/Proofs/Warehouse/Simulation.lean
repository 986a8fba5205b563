import RecordGate.Proofs.Warehouse.Mirroring

/-!
# A warehouse of files against one in memory

The same calls are made on a warehouse of CSV files and on one in memory. As long as the files can be used and were not
there before, and none of them is the file of two tables or of other staged rows, the answers are the same, and the
files are told by what the memory holds (`TableFiles.simulates`): the two are in step at the beginning
(`TableFiles.mirrors_registered`), and every call keeps them so.

Names that differ need not be names of different files, so the conditions are about the files. In a directory without
directories in it, plain names meet them unless a table is named like the file of staged rows
(`TableFiles.orderly_inTree`). The rows of such a table are published without a header
(`TableFiles.shared_file_without_header`).
-/

namespace RecordGate.TableFiles

variable {d : Directory} {files : Record Bytes} {fields : String → List String} {calls : List LoadStep}
  {w : TableFiles} {table : String} {columns : List String} {rows : List TableRow}

/-! ## Directories without directories -/

section InTree

variable {home : List String} {others : List (List String)} (some : home ≠ [])
  (way : ∀ name ∈ home, Directory.IsOrdinary name) (room : (Directory.Tree.pathOf home).utf8ByteSize ≤ 3839)
  (empty : ∀ name, home ++ [name] ∉ others) (plain : ∀ step ∈ calls, IsPlainName step.table ∧ step.load < 2 ^ 64)

include some way room empty plain

theorem usable_inTree : ∀ step ∈ calls, Usable (.inTree home others) files calls step := by
  intro step called
  obtain ⟨short, small⟩ := plain step called
  obtain ⟨placed, lies⟩ := places_inTree some way room empty short small
  cases step with
  | stage load table rows => exact .inr ⟨_, lies⟩
  | commit load table => exact .inl ⟨_, placed⟩
  | abort load table => exact .inl ⟨_, lies⟩

/--
**Plain names are orderly** in an empty directory, unless a table is named like the file of staged rows.
-/
theorem orderly_inTree (uniform : ∀ step ∈ calls, ∀ row ∈ step.rows, row.names.Perm (fields step.table))
    (tidy : ∀ step ∈ calls, step.rows ≠ [] → Csv.IsTidy (fields step.table))
    (apart : ∀ a ∈ calls, ∀ b ∈ calls, tableName a.table ≠ stagedName b.load b.table) :
    Orderly (.inTree home others) .empty fields calls := by
  have places {step : LoadStep} (called : step ∈ calls) :=
    places_inTree some way room empty (plain step called).1 (plain step called).2
  refine ⟨usable_inTree some way room empty plain, fun _ _ => rfl, uniform, tidy, ?_, ?_, ?_⟩
  · intro a first b second same
    exact tableName_inj.mp (same.eq (places first).1 (places second).1)
  · intro a first b second same
    obtain ⟨loads, tables⟩ := stagedName_inj (same.eq (places first).2 (places second).2)
    rw [loads, tables]
  · intro a first b second same
    exact apart a first b second (same.eq (places first).1 (places second).2)

end InTree

/-! ## The warehouse at the beginning -/

/-- A warehouse that finds the given files, with the columns of some tables. -/
def registered (files : Record Bytes) (columns : List (String × List String)) : TableFiles :=
  columns.foldl (fun w entry => w.withColumns entry.1 entry.2) (ofFiles files)

theorem registered_concat (columns : List (String × List String)) (entry : String × List String) :
    registered files (columns ++ [entry]) = (registered files columns).withColumns entry.1 entry.2 :=
  List.foldl_concat ..

theorem files_registered (files : Record Bytes) (columns : List (String × List String)) :
    (registered files columns).files = files ∧ (registered files columns).staged = [] ∧
      (registered files columns).bytesWritten = 0 := by
  induction columns using List.reverseRecOn with
  | nil => exact ⟨rfl, rfl, rfl⟩
  | append_singleton columns entry ih => rwa [registered_concat]

theorem columns_registered (entries : List (String × List String))
    (known : (registered files entries).columns.get? table = some columns) : (table, columns) ∈ entries := by
  induction entries using List.reverseRecOn with
  | nil => cases known
  | append_singleton entries entry ih =>
    rw [registered_concat, withColumns, Record.get?_set] at known
    split at known
    · next same =>
      cases known
      cases same
      exact List.mem_append_right _ List.mem_cons_self
    · exact List.mem_append_left _ (ih known)

/-- At the beginning there are no files of the calls, and nothing is in the memory. -/
theorem mirrors_registered {entries : List (String × List String)} (orderly : Orderly d files fields calls)
    (perm : ∀ entry ∈ entries, ∀ step ∈ calls, step.rows ≠ [] → step.table = entry.1 → entry.2.Perm (fields entry.1)) :
    Mirrors d files fields calls (registered files entries) .empty := by
  obtain ⟨found, staged, bytes⟩ := files_registered files entries
  have absent {name : String} (touches : ∀ place, d.place? name = .ok place → Touches d calls place) :
      (registered files entries).file? d name = none := by
    cases placed : d.place? name with
    | ok place => rw [file?_of_place placed, found, orderly.fresh place (touches place placed)]
    | error fault => rw [file?, placed]; rfl
  have noTable (step : LoadStep) (called : step ∈ calls) :
      (registered files entries).file? d (tableName step.table) = none :=
    absent fun place placed => ⟨step, called, .inl placed⟩
  constructor
  case tables => exact noTable
  case staged => exact fun step called => absent fun place lies => ⟨step, called, .inr lies⟩
  case others => exact fun place _ => congrArg (·.get? place) found
  case known => exact fun table _ => ⟨rfl, fun load => rfl⟩
  case columns =>
    intro step called filled columns known
    exact perm _ (columns_registered entries known) step called filled rfl
  case count =>
    intro load table
    rw [stagedCount, staged]
    rfl
  case lies => exact fun load table some => absurd rfl some
  case bytes =>
    rw [bytes, tableBytes]
    refine (List.sum_eq_zero fun n mem => ?_).symm
    obtain ⟨table, inside, rfl⟩ := List.mem_map.mp mem
    obtain ⟨step, called, rfl⟩ := List.mem_map.mp (List.mem_dedup.mp inside)
    rw [content, noTable step called]
    rfl

/-! ## Whole histories -/

/-- The files after some calls. -/
def filesAfter (d : Directory) (files : Record Bytes) (entries : List (String × List String))
    (calls : List LoadStep) : TableFiles :=
  ((loader d).run calls (registered files entries)).2

/-- The memory after the same calls. -/
def memoryAfter (calls : List LoadStep) : Warehouse := (Warehouse.loader.run calls .empty).2

theorem isSome_tableFile? : (tableFile? columns rows).isSome = true ↔ rows ≠ [] := by
  cases rows <;> simp [tableFile?]

theorem isSome_stagedFile? : (stagedFile? columns rows).isSome = true ↔ rows ≠ [] := by
  cases rows <;> simp [stagedFile?]

/-- A table whose records are those of rows with its columns gives these rows. -/
theorem rows_tableFile (tidy : Csv.IsTidy columns) (perm : ∀ row ∈ rows, row.names.Perm columns) :
    Csv.rows (Csv.writtenRecord (columns.map Text.encode) ++ Csv.written (rows.map (recordOf columns))) =
      (rows.zipIdx 1).map fun entry => .row ⟨entry.2, entry.1.map fun value => .text value.written⟩ := by
  have width : ∀ values ∈ rows.map fun row => columns.map (Schema.exportedText row),
      values.length = columns.length := by
    intro values mem
    obtain ⟨row, -, rfl⟩ := List.mem_map.mp mem
    exact List.length_map _
  have read := Csv.rows_tidy tidy width
  rw [Csv.tableBytes, List.map_map, List.zipIdx_map, List.map_map] at read
  rw [funext (Schema.recordOf_eq columns)]
  refine read.trans (List.map_congr_left fun entry mem => ?_)
  have inside : entry.1 ∈ rows := (List.mem_zipIdx mem).2.2 ▸ List.getElem_mem _
  exact congrArg (RowItem.row <| RawRow.mk entry.2 ·) (Csv.tableCells_of_perm (perm _ inside) Value.written)

/-- A table has rows in memory when a commit has counted some. -/
theorem rows_ne_nil_iff (calls : List LoadStep) (table : String) :
    (memoryAfter calls).rows table ≠ [] ↔
      ∃ (k : Nat) (load : LoadId) (n : Nat), calls[k]? = some (.commit load table) ∧
        (Warehouse.loader.run calls .empty).1[k]? = some (Except.ok (some (n + 1))) := by
  rw [memoryAfter, (Warehouse.holds_run calls).rows, ne_eq, List.map_eq_nil_iff, ← ne_eq, published_ne_nil]
  refine exists_congr fun k => exists_congr fun load => ?_
  have counted (call : calls[k]? = some (.commit load table)) : (Warehouse.loader.run calls .empty).1[k]? =
      some (.ok (some (openRows load table (calls.take k)).length)) := by
    rw [Loader.getElem?_run call, ((Warehouse.holds_run (calls.take k)).answer _).1]
    rfl
  constructor
  · rintro ⟨call, some⟩
    obtain ⟨n, long⟩ := Nat.exists_eq_succ_of_ne_zero fun none => some (List.length_eq_zero_iff.mp none)
    exact ⟨n, call, by rw [counted call, long]⟩
  · rintro ⟨n, call, answer⟩
    refine ⟨call, fun none => ?_⟩
    rw [counted call, none] at answer
    cases answer

/-- The rows of a table were staged for it. -/
theorem staged_of_rows {row : TableRow} (mem : row ∈ (memoryAfter calls).rows table) :
    ∃ step ∈ calls, step.table = table ∧ row ∈ step.rows := by
  rw [memoryAfter, (Warehouse.holds_run calls).rows] at mem
  obtain ⟨r, published, rfl⟩ := List.mem_map.mp mem
  obtain ⟨load, rows, called, inside⟩ := staged_of_published published
  exact ⟨_, called, rfl, inside⟩

/-- The columns of a table that has rows are the fields of each of them. -/
theorem Mirrors.columns_of_rows (h : Mirrors d files fields calls w (memoryAfter calls))
    (orderly : Orderly d files fields calls) (filled : (memoryAfter calls).rows table ≠ []) :
    (w.columnsOf table).Perm (fields table) ∧ Csv.IsTidy (w.columnsOf table) ∧
      ∀ row ∈ (memoryAfter calls).rows table, row.names.Perm (w.columnsOf table) := by
  obtain ⟨first, mem⟩ := List.exists_mem_of_ne_nil _ filled
  obtain ⟨step, called, rfl, inside⟩ := staged_of_rows mem
  have some : step.rows ≠ [] := List.ne_nil_of_mem inside
  have chosen : (w.columnsOf step.table).Perm (fields step.table) := by
    cases found : w.columns.get? step.table with
    | none => exact absurd (h.known _ found).1 filled
    | some columns =>
      rw [columnsOf_of_known found]
      exact h.columns step called some columns found
  refine ⟨chosen, (orderly.tidy step called some).of_perm chosen, fun row mem => ?_⟩
  obtain ⟨other, called', same, inside⟩ := staged_of_rows mem
  rw [← same] at chosen ⊢
  exact (orderly.uniform other called' row inside).trans chosen.symm

/-- What it means that files, with the columns of some tables registered, do what memory does. -/
structure Simulates (d : Directory) (files : Record Bytes) (fields : String → List String)
    (entries : List (String × List String)) (calls : List LoadStep) : Prop where
  /-- Every call is answered as in memory. -/
  answers : ((loader d).run calls (registered files entries)).1 = (Warehouse.loader.run calls .empty).1
  /-- A table has a file when a commit has counted rows for it. -/
  tables : ∀ table ∈ calls.map LoadStep.table,
    ((filesAfter d files entries calls).file? d (tableName table)).isSome = true ↔
      ∃ (k : Nat) (load : LoadId) (n : Nat), calls[k]? = some (.commit load table) ∧
        ((loader d).run calls (registered files entries)).1[k]? = some (Except.ok (some (n + 1)))
  /-- The file of a table is one header and a record for each row that the memory shows. -/
  content : ∀ table ∈ calls.map LoadStep.table, ∀ bytes,
    (filesAfter d files entries calls).file? d (tableName table) = some bytes →
      ∃ columns : List String, columns.Perm (fields table) ∧
        bytes = Csv.writtenRecord (columns.map Text.encode) ++
          Csv.written (((memoryAfter calls).rows table).map (recordOf columns))
  /-- It is read as these rows, in order: each field is the text that is written for its value. -/
  rows : ∀ table ∈ calls.map LoadStep.table, ∀ bytes,
    (filesAfter d files entries calls).file? d (tableName table) = some bytes →
      Csv.rows bytes = (((memoryAfter calls).rows table).zipIdx 1).map fun entry =>
        .row ⟨entry.2, entry.1.map fun value => .text value.written⟩
  /-- Rows of a load have a file of their own as long as some are staged and not settled. -/
  staged : ∀ step ∈ calls,
    ((filesAfter d files entries calls).file? d (stagedName step.load step.table)).isSome = true ↔
      (memoryAfter calls).stagedRows step.load step.table ≠ []
  /-- All other files are those of the beginning. -/
  others : ∀ place, ¬Touches d calls place →
    (filesAfter d files entries calls).files.get? place = files.get? place
  /-- What was written stands in the files of the tables. -/
  bytes : (filesAfter d files entries calls).bytesWritten = (filesAfter d files entries calls).tableBytes d calls

/--
**Files do what memory does**, for any calls of any loads on any tables. The files of the calls can be used and are not
there at the beginning; tables have different files, and so have the rows that are staged under different loads or for
different tables, and no table has the file of staged rows; and the rows staged for a table have the same fields, which
are the registered columns in some order.
-/
theorem simulates {entries : List (String × List String)} (orderly : Orderly d files fields calls)
    (perm : ∀ entry ∈ entries, ∀ step ∈ calls, step.rows ≠ [] → step.table = entry.1 → entry.2.Perm (fields entry.1)) :
    Simulates d files fields entries calls := by
  obtain ⟨same, mirrors⟩ :
      ((loader d).run calls (registered files entries)).1 = (Warehouse.loader.run calls .empty).1 ∧
        Mirrors d files fields calls (filesAfter d files entries calls) (memoryAfter calls) :=
    (mirrors_registered orderly perm).run orderly (List.Subset.refl calls)
  let after := filesAfter d files entries calls
  have shown {step : LoadStep} (called : step ∈ calls) {bytes : Bytes}
      (found : after.file? d (tableName step.table) = some bytes) :
      (after.columnsOf step.table).Perm (fields step.table) ∧
        bytes = Csv.writtenRecord ((after.columnsOf step.table).map Text.encode) ++
          Csv.written (((memoryAfter calls).rows step.table).map (recordOf (after.columnsOf step.table))) ∧
        Csv.rows bytes = (((memoryAfter calls).rows step.table).zipIdx 1).map fun entry =>
          .row ⟨entry.2, entry.1.map fun value => .text value.written⟩ := by
    have form := (mirrors.tables step called).symm.trans found
    have filled : (memoryAfter calls).rows step.table ≠ [] := isSome_tableFile?.mp (by rw [form]; rfl)
    obtain ⟨chosen, tidy, uniform⟩ := mirrors.columns_of_rows orderly filled
    rw [tableFile?, if_neg (by simpa using filled), Option.some.injEq] at form
    exact ⟨chosen, form.symm, by rw [← form, rows_tableFile tidy uniform]⟩
  constructor
  case answers => exact same
  case tables =>
    intro table mem
    obtain ⟨step, called, rfl⟩ := List.mem_map.mp mem
    rw [mirrors.tables step called, isSome_tableFile?, same]
    exact rows_ne_nil_iff calls step.table
  case content =>
    intro table mem bytes found
    obtain ⟨step, called, rfl⟩ := List.mem_map.mp mem
    obtain ⟨chosen, form, -⟩ := shown called found
    exact ⟨_, chosen, form⟩
  case rows =>
    intro table mem bytes found
    obtain ⟨step, called, rfl⟩ := List.mem_map.mp mem
    exact (shown called found).2.2
  case staged =>
    intro step called
    rw [mirrors.staged step called, isSome_stagedFile?]
  case others => exact mirrors.others
  case bytes => exact mirrors.bytes

/-- Two loads of two tables, the columns of one of which are registered; texts that have to be quoted. -/
theorem simulates_two_loads :
    let row (x y : String) : TableRow := .ofList [("x", .text x), ("y", .text y)]
    let note (text : String) : TableRow := .ofList [("note", .text text)]
    let d : Directory := .inTree ["tmp", "tables"] []
    let fields (table : String) : List String := if table = "pairs" then ["x", "y"] else ["note"]
    let entries := [("pairs", ["y", "x"])]
    let calls : List LoadStep := [.stage 1 "pairs" [row "1,5" "a"], .stage 2 "notes" [note "", note "\"q\""],
      .stage 2 "pairs" [row "7" "b"], .commit 2 "notes", .abort 2 "pairs", .commit 1 "pairs", .stage 1 "pairs" [],
      .commit 1 "pairs", .stage 3 "notes" [note "late"]]
    Orderly d .empty fields calls ∧ (∀ entry ∈ entries, ∀ step ∈ calls, step.rows ≠ [] → step.table = entry.1 →
        entry.2.Perm (fields entry.1)) ∧ Simulates d .empty fields entries calls := by
  intro row note d fields entries calls
  have orderly : Orderly d .empty fields calls :=
    orderly_inTree (List.cons_ne_nil _ _) (by decide +kernel) (by decide +kernel) nofun (by decide +kernel)
      (by decide +kernel) (by decide +kernel) (by decide +kernel)
  have perm : ∀ entry ∈ entries, ∀ step ∈ calls, step.rows ≠ [] → step.table = entry.1 →
      entry.2.Perm (fields entry.1) := by decide +kernel
  exact ⟨orderly, perm, simulates orderly perm⟩

/--
A table that is named like the file of staged rows has no header: when its rows are committed, its file holds the
record that the first load has staged and not committed.
-/
theorem shared_file_without_header :
    let row (text : String) : TableRow := .ofList [("c", .text text)]
    let d : Directory := .inTree ["tmp", "tables"] []
    let fields (_ : String) : List String := ["c"]
    let calls : List LoadStep := [.stage 1 "t" [row "x"], .stage 1 "t.load-1.staged" [row "y"],
      .commit 1 "t.load-1.staged"]
    (∀ step ∈ calls, Usable d .empty calls step) ∧
      (∀ step ∈ calls, ∀ row ∈ step.rows, row.names.Perm (fields step.table)) ∧
      (∀ step ∈ calls, step.rows ≠ [] → Csv.IsTidy (fields step.table)) ∧
      (∀ a ∈ calls, ∀ b ∈ calls, d.Same (tableName a.table) (tableName b.table) → a.table = b.table) ∧
      (∀ a ∈ calls, ∀ b ∈ calls, d.Same (stagedName a.load a.table) (stagedName b.load b.table) →
        (a.load, a.table) = (b.load, b.table)) ∧
      (filesAfter d .empty [] calls).file? d (tableName "t.load-1.staged") = some (Text.encode "x\ny\n") ∧
      ¬Simulates d .empty fields [] calls := by
  intro row d fields calls
  have file : (filesAfter d .empty [] calls).file? d (tableName "t.load-1.staged") =
      some (Text.encode "x\ny\n") := by decide +kernel
  refine ⟨usable_inTree (List.cons_ne_nil _ _) (by decide +kernel) (by decide +kernel) nofun (by decide +kernel),
    by decide +kernel, by decide +kernel, by decide +kernel, by decide +kernel, file, fun h => ?_⟩
  obtain ⟨columns, perm, form⟩ := h.content "t.load-1.staged" (by decide +kernel) _ file
  cases List.perm_singleton.mp perm
  -- A header would begin with a `c`.
  have front := congrArg List.head? form
  exact absurd front (by decide +kernel)

end RecordGate.TableFiles
