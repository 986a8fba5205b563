import RecordGate.Proofs.Record
import RecordGate.Proofs.Value
import RecordGate.Proofs.Warehouse.Directory
import RecordGate.Proofs.Warehouse.Steps
import RecordGate.Warehouse.Files

/-!
# Loads of a warehouse of CSV files

While a load is under way its rows stand in a file of their own, as records of the columns of the table, and
no other file is touched (`TableFiles.Staging`). Staging more rows appends their records, however the rows are
grouped (`TableFiles.Staging.stageAll`). Committing appends the file to that of the table, behind a header
when the table was empty (`TableFiles.Staging.commit`).

What a call does to the files is told by place: `TableFiles.lay` where rows are staged, `TableFiles.publish` where they
are committed, and `TableFiles.abort_of_placed` where they are dropped.
-/

namespace RecordGate.TableFiles

/-- Stages groups of rows one after the other, up to the first failure, and counts the rows. -/
def stageAll (d : Directory) (load : LoadId) (table : String) :
    List (List TableRow) → TableFiles → Except LoadError Nat × TableFiles
  | [], w => (.ok 0, w)
  | rows :: more, w =>
    match stage d load table rows w with
    | (.error e, w) => (.error e, w)
    | (.ok count, w) => ((stageAll d load table more w).1.map (count + ·), (stageAll d load table more w).2)

/-! ## Names of files -/

theorem toList_stagedName (load : LoadId) (table : String) :
    (stagedName load table).toList =
      table.toList ++ ".load-".toList ++ Nat.toDigits 10 load ++ ".staged.csv".toList := by
  change (table ++ "." ++ ("load-" ++ Nat.repr load) ++ ".staged.csv").toList = _
  simp

theorem tableName_ne_stagedName (load : LoadId) (table : String) : tableName table ≠ stagedName load table := by
  intro same
  have := congrArg (·.toList.length) same
  simp [toList_stagedName, tableName] at this

/-- A table has a short name without zeros and slashes. -/
def IsPlainName (table : String) : Prop :=
  table.toList.length ≤ 26 ∧ '\x00' ∉ table.toList ∧ '/' ∉ table.toList

instance (table : String) : Decidable (IsPlainName table) := inferInstanceAs (Decidable (_ ∧ _))

variable {load : LoadId} {table : String}

theorem isOrdinary_tableName (plain : IsPlainName table) : Directory.IsOrdinary (tableName table) := by
  obtain ⟨short, noZero, noSlash⟩ := plain
  apply Directory.isOrdinary_of_length
  · simp [tableName]
  · simp [tableName]
    omega
  · simp [tableName, noZero]
  · simp [tableName, noSlash]

/-- The name of the file of staged rows is short enough when the number of the load has 64 bits. -/
theorem isOrdinary_stagedName (plain : IsPlainName table) (small : load < 2 ^ 64) :
    Directory.IsOrdinary (stagedName load table) := by
  obtain ⟨short, noZero, noSlash⟩ := plain
  have few : (Nat.toDigits 10 load).length ≤ 20 :=
    (Nat.length_toDigits_le_iff (by decide) (by decide)).mpr (Nat.lt_trans small (by decide))
  apply Directory.isOrdinary_of_length
  · rw [toList_stagedName]
    simp
    omega
  · rw [toList_stagedName]
    simp
    omega
  · rw [toList_stagedName]
    simp [noZero, notMem_toDigits (c := '\x00') (n := load) rfl]
  · rw [toList_stagedName]
    simp [noSlash, notMem_toDigits (c := '/') (n := load) rfl]

variable {other : LoadId} {table' : String}

theorem tableName_inj : tableName table = tableName table' ↔ table = table' := by
  refine ⟨fun same => ?_, congrArg tableName⟩
  have letters := congrArg String.toList same
  rw [tableName, tableName, String.toList_append, String.toList_append] at letters
  exact String.toList_inj.mp (List.append_cancel_right letters)

/-- The number of a load ends where its digits do, so the name of a file tells its load and its table. -/
theorem stagedName_inj (same : stagedName load table = stagedName other table') : load = other ∧ table = table' := by
  have letters := congrArg String.toList same
  rw [toList_stagedName, toList_stagedName] at letters
  have front := congrArg List.reverse (List.append_cancel_right letters)
  rw [List.reverse_append, List.reverse_append, List.reverse_append, List.reverse_append] at front
  have digits (n : Nat) : ∀ c ∈ (Nat.toDigits 10 n).reverse, c.isDigit = true := fun c hc =>
    Nat.isDigit_of_mem_toDigits (by decide) (by decide) (List.mem_reverse.mp hc)
  have dash (cs : List Char) : ∀ c ∈ (".load-".toList.reverse ++ cs).head?, c.isDigit = false := by
    rintro c ⟨⟩
    rfl
  obtain ⟨numbers, tables⟩ := append_inj_of_runs (digits load) (digits other) (dash _) (dash _) front
  constructor
  · exact toDigits_inj (List.reverse_injective numbers)
  · exact String.toList_inj.mp (List.reverse_injective (List.append_cancel_left tables))

/-- Tables with plain names have files of their own in the directory, and so have the rows that are staged for them. -/
def HoldsTables (d : Directory) : Prop :=
  ∀ load table, IsPlainName table → load < 2 ^ 64 → ∃ shown lain, d.place? (tableName table) = .ok shown ∧
    d.place? (stagedName load table) = .ok lain ∧ shown ≠ lain

section InTree

variable {home : List String} {others : List (List String)} (some : home ≠ [])
  (way : ∀ name ∈ home, Directory.IsOrdinary name) (room : (Directory.Tree.pathOf home).utf8ByteSize ≤ 3839)
  (empty : ∀ name, home ++ [name] ∉ others)

include some way room empty

/-- Files of tables with plain names are where they are called so, if the directory has no directories in it. -/
theorem places_inTree (plain : IsPlainName table) (small : load < 2 ^ 64) :
    (Directory.inTree home others).place? (tableName table) = .ok (tableName table) ∧
      (Directory.inTree home others).place? (stagedName load table) = .ok (stagedName load table) :=
  ⟨Directory.place?_inTree some way room empty (isOrdinary_tableName plain),
    Directory.place?_inTree some way room empty (isOrdinary_stagedName plain small)⟩

/-- **A directory without directories in it holds tables.** -/
theorem holdsTables_inTree : HoldsTables (.inTree home others) := by
  intro load table plain small
  obtain ⟨placed, lies⟩ := places_inTree some way room empty plain small
  exact ⟨tableName table, stagedName load table, placed, lies, tableName_ne_stagedName load table⟩

end InTree

/-! ## Files by name -/

variable {d : Directory} {w w' : TableFiles} {name shown lain : String} {columns : List String} {rows : List TableRow}

/-- The file of a name, if there is one. -/
def file? (w : TableFiles) (d : Directory) (name : String) : Option Bytes := (d.place? name).toOption.bind w.files.get?

/-- The content of the file of a name; a file that is not there is empty. -/
def content (w : TableFiles) (d : Directory) (name : String) : Bytes := (w.file? d name).getD []

theorem file?_of_place (placed : d.place? name = .ok shown) : w.file? d name = w.files.get? shown := by
  rw [file?, placed]
  rfl

theorem content_of_place (placed : d.place? name = .ok shown) : w.content d name = w.contentAt shown := by
  rw [content, file?_of_place placed, contentAt]

/-- A file stays what it is where nothing happens at its place. -/
theorem file?_congr (same : ∀ place, d.place? name = .ok place → w'.files.get? place = w.files.get? place) :
    w'.file? d name = w.file? d name := by
  cases placed : d.place? name with
  | ok place => rw [file?_of_place placed, file?_of_place placed, same place placed]
  | error fault => rw [file?, file?, placed]; rfl

/-! ## The calls -/

theorem answer_stage : (loader d).answer (.stage load table rows) w =
    ((TableFiles.stage d load table rows w).1.map some, (TableFiles.stage d load table rows w).2) := rfl

theorem answer_commit : (loader d).answer (.commit load table) w =
    ((TableFiles.commit d load table w).1.map some, (TableFiles.commit d load table w).2) := rfl

theorem answer_abort : (loader d).answer (.abort load table) w =
    ((TableFiles.abort d load table w).1.map fun _ => none, (TableFiles.abort d load table w).2) := rfl

/-- The files after rows were staged. -/
def lay (w : TableFiles) (columns : List String) (load : LoadId) (table : String) (lain : String)
    (rows : List TableRow) : TableFiles :=
  { (w.withColumns table columns).append lain (Csv.written (rows.map (recordOf columns))) with
    staged := ((load, table), w.stagedCount load table + rows.length) :: (w.unstage load table).staged }

theorem stage_of_placed (filled : rows ≠ []) (placed : d.place? (stagedName load table) = .ok lain) :
    TableFiles.stage d load table rows w =
      (.ok rows.length, w.lay (w.columnsFor table rows) load table lain rows) := by
  rw [TableFiles.stage, if_neg (by simpa using filled)]
  simp only [placed]
  rfl

theorem get?_lay (place : String) : (w.lay columns load table lain rows).files.get? place =
    if lain = place then some (w.contentAt lain ++ Csv.written (rows.map (recordOf columns)))
    else w.files.get? place := Record.get?_set ..

theorem stagedCount_lay (l : LoadId) (t : String) : (w.lay columns load table lain rows).stagedCount l t =
    w.stagedCount l t + if (load, table) = (l, t) then rows.length else 0 := by
  rw [stagedCount, lay, lookup_cons_if, unstage, lookup_filter_ne]
  split
  · next same =>
    cases same
    rfl
  · rfl

/-- What a commit appends to the file of a table: staged rows, behind a header when the file is empty. -/
def added (w : TableFiles) (columns : List String) (shown lain : String) : Bytes :=
  (if (w.contentAt shown).isEmpty then Csv.writtenRecord (columns.map Text.encode) else []) ++ w.contentAt lain

/-- The files after a commit of staged rows. -/
def publish (w : TableFiles) (columns : List String) (load : LoadId) (table shown lain : String) : TableFiles :=
  { (w.unstage load table).append shown (w.added columns shown lain) |>.remove lain with
    bytesWritten := w.bytesWritten + (w.added columns shown lain).length }

theorem get?_publish (place : String) : (w.publish columns load table shown lain).files.get? place =
    if lain = place then none
    else if shown = place then some (w.contentAt shown ++ w.added columns shown lain)
    else w.files.get? place := by
  rw [publish, remove, append, Record.get?_erase, Record.get?_set]
  rfl

/-- Columns that are known already stay as they are. -/
theorem withColumns_of_known (known : w.columns.get? table = some columns) : w.withColumns table columns = w := by
  have same : w.columns.set table columns = w.columns := by
    refine Record.ext_get? fun name => ?_
    rw [Record.get?_set]
    split
    · next found => rw [← found, known]
    · rfl
  rw [withColumns, same]

theorem columnsFor_of_known (known : w.columns.get? table = some columns) (rows : List TableRow) :
    w.columnsFor table rows = columns := by
  rw [columnsFor, known]
  rfl

theorem append_append (place : String) (first second : Bytes) :
    (w.append place first).append place second = w.append place (first ++ second) := by
  have grown : (w.append place first).contentAt place = w.contentAt place ++ first := by
    rw [contentAt, append, Record.get?_set_self, Option.getD_some]
  have same : (w.append place first).files.set place (w.contentAt place ++ first ++ second) =
      w.files.set place (w.contentAt place ++ (first ++ second)) := by
    refine Record.ext_get? fun name => ?_
    rw [Record.get?_set, Record.get?_set, append, Record.get?_set, List.append_assoc]
    split <;> rfl
  rw [append, grown, same]
  rfl

theorem open?_eq_ok {bytes : Bytes} :
    w.open? d name = .ok (lain, bytes) ↔ d.place? name = .ok lain ∧ w.files.get? lain = some bytes := by
  rw [open?]
  cases d.place? name with
  | error fault => exact ⟨nofun, nofun⟩
  | ok place =>
    simp only [Except.ok.injEq]
    cases found : w.files.get? place with
    | none =>
      refine ⟨nofun, ?_⟩
      rintro ⟨rfl, there⟩
      cases found.symm.trans there
    | some stored =>
      constructor
      · rintro ⟨⟩
        exact ⟨rfl, found⟩
      · rintro ⟨rfl, there⟩
        cases found.symm.trans there
        rfl

/-- A commit of staged rows appends their file to that of the table. -/
theorem commit_of_placed (known : w.columns.get? table = some columns) (filled : w.stagedCount load table ≠ 0)
    (placed : d.place? (tableName table) = .ok shown) (lies : d.place? (stagedName load table) = .ok lain)
    (apart : shown ≠ lain) (there : (w.files.get? lain).isSome = true) :
    TableFiles.commit d load table w =
      (.ok (w.stagedCount load table), w.publish columns load table shown lain) := by
  have chosen : (w.unstage load table).columnsFor table [] = columns := columnsFor_of_known known []
  have kept : (w.unstage load table).withColumns table columns = w.unstage load table := withColumns_of_known known
  have content : w.files.get? lain = some (w.contentAt lain) := by
    obtain ⟨bytes, found⟩ := Option.isSome_iff_exists.mp there
    rw [contentAt, found, Option.getD_some]
  have found (header : Bytes) :
      ((w.unstage load table).append shown header).open? d (stagedName load table) = .ok (lain, w.contentAt lain) :=
    open?_eq_ok.mpr ⟨lies, (Record.get?_set_of_ne _ _ apart).trans content⟩
  rw [TableFiles.commit]
  simp only [if_neg filled, chosen, kept, placed, found, append_append, ← List.length_append]
  rfl

theorem open?_of_missing (placed : d.place? name = .ok lain) (missing : w.files.get? lain = none) :
    w.open? d name = .error .missing := by
  rw [open?, placed]
  simp only [missing]

theorem remove_of_missing (missing : w.files.get? lain = none) : w.remove lain = w := by
  have same : w.files.erase lain = w.files := by
    refine Record.ext_get? fun name => ?_
    rw [Record.get?_erase]
    split
    · next here => rw [← here, missing]
    · rfl
  rw [remove, same]

/-- Dropping staged rows removes their file, if there is one. -/
theorem abort_of_placed (lies : d.place? (stagedName load table) = .ok lain) :
    TableFiles.abort d load table w = (.ok (), (w.unstage load table).remove lain) := by
  cases found : w.files.get? lain with
  | some bytes =>
    have opened : (w.unstage load table).open? d (stagedName load table) = .ok (lain, bytes) :=
      open?_eq_ok.mpr ⟨lies, found⟩
    rw [TableFiles.abort]
    simp only [opened]
  | none =>
    have missing : (w.unstage load table).open? d (stagedName load table) = .error .missing :=
      open?_of_missing lies found
    have unchanged : (w.unstage load table).remove lain = w.unstage load table := remove_of_missing found
    rw [TableFiles.abort, unchanged]
    simp only [missing]

/-! ## A load under way -/

variable {start : TableFiles}

theorem written_append (records records' : List (List Bytes)) :
    Csv.written (records ++ records') = Csv.written records ++ Csv.written records' := List.flatMap_append

/-- From `start` on, the rows have been staged under the load, and nothing else happened to a file. -/
structure Staging (start : TableFiles) (columns : List String) (load : LoadId) (table lain : String)
    (rows : List TableRow) (w : TableFiles) : Prop where
  known : w.columns.get? table = some columns
  staged : w.contentAt lain = Csv.written (rows.map (recordOf columns))
  there : rows ≠ [] → (w.files.get? lain).isSome = true
  count : w.stagedCount load table = rows.length
  others : ∀ place, place ≠ lain → w.contentAt place = start.contentAt place

namespace Staging

theorem stage (h : Staging start columns load table lain rows w) (lies : d.place? (stagedName load table) = .ok lain)
    (more : List TableRow) :
    (TableFiles.stage d load table more w).1 = .ok more.length ∧
      Staging start columns load table lain (rows ++ more) (TableFiles.stage d load table more w).2 := by
  by_cases filled : more = []
  · subst filled
    rw [List.append_nil]
    exact ⟨rfl, h⟩
  · rw [stage_of_placed filled lies, columnsFor_of_known h.known]
    refine ⟨rfl, ?_⟩
    constructor
    case known => exact Record.get?_set_self ..
    case staged =>
      rw [contentAt, get?_lay, if_pos rfl, Option.getD_some, h.staged, List.map_append, written_append]
    case there =>
      intro
      rw [get?_lay, if_pos rfl]
      rfl
    case count => rw [stagedCount_lay, if_pos rfl, h.count, List.length_append]
    case others =>
      intro place other
      rw [contentAt, get?_lay, if_neg other.symm]
      exact h.others place other

/-- **However rows are grouped, staging them stages all of them**, in order. -/
theorem stageAll (lies : d.place? (stagedName load table) = .ok lain) (groups : List (List TableRow))
    (h : Staging start columns load table lain rows w) :
    (TableFiles.stageAll d load table groups w).1 = .ok groups.flatten.length ∧
      Staging start columns load table lain (rows ++ groups.flatten)
        (TableFiles.stageAll d load table groups w).2 := by
  induction groups generalizing rows w with
  | nil =>
    rw [List.flatten_nil, List.append_nil]
    exact ⟨rfl, h⟩
  | cons group groups ih =>
    obtain ⟨count, staged⟩ := h.stage lies group
    rcases form : TableFiles.stage d load table group w with ⟨answer, next⟩
    rw [form] at count staged
    cases count
    obtain ⟨counts, all⟩ := ih staged
    rw [TableFiles.stageAll, form]
    simp only [counts]
    rw [List.flatten_cons, List.length_append, ← List.append_assoc]
    exact ⟨rfl, all⟩

/-- **Committing a load puts its records behind those of the table**, and a header in front of the first ones. -/
theorem commit (h : Staging start columns load table lain rows w) (filled : rows ≠ [])
    (placed : d.place? (tableName table) = .ok shown) (lies : d.place? (stagedName load table) = .ok lain)
    (apart : shown ≠ lain) :
    let before := start.contentAt shown
    let header := if before.isEmpty then Csv.writtenRecord (columns.map Text.encode) else []
    (TableFiles.commit d load table w).1 = .ok rows.length ∧
      (TableFiles.commit d load table w).2.contentAt shown =
        before ++ (header ++ Csv.written (rows.map (recordOf columns))) := by
  intro before header
  have some : w.stagedCount load table ≠ 0 := by rwa [h.count, ne_eq, List.length_eq_zero_iff]
  have kept : w.contentAt shown = before := h.others _ apart
  rw [commit_of_placed h.known some placed lies apart (h.there filled), h.count]
  refine ⟨rfl, ?_⟩
  rw [contentAt, get?_publish, if_neg apart.symm, if_pos rfl, Option.getD_some, added, kept, h.staged]

end Staging

/-- A load of which nothing is known has staged nothing. -/
theorem staging_start (start : TableFiles) (known : start.columns.get? table = some columns)
    (unstaged : start.contentAt lain = []) (count : start.stagedCount load table = 0) :
    Staging start columns load table lain [] start :=
  ⟨known, unstaged, fun filled => absurd rfl filled, count, fun _ _ => rfl⟩

end RecordGate.TableFiles
