import Mathlib.Algebra.BigOperators.Group.List.Basic
import Mathlib.Algebra.GroupWithZero.Nat
import Mathlib.Data.List.Dedup
import RecordGate.Proofs.Warehouse.Export
import RecordGate.Proofs.Warehouse.History

/-!
# Files that show what a memory holds

A warehouse of CSV files next to one in memory (`TableFiles.Mirrors`): the file of a table is a header and the
records of its rows, or is not there while the table has no rows; the rows that a load has staged for a table lie
in a file of their own, which is there as long as there are such rows. On orderly calls (`TableFiles.Orderly`), one
call keeps the two in step and is answered alike (`TableFiles.Mirrors.answer`), and so does any number of them.
-/

namespace RecordGate

/-- The rows that a call stages. -/
def LoadStep.rows : LoadStep → List TableRow
  | stage _ _ rows => rows
  | commit .. => []
  | abort .. => []

namespace TableFiles

/-- A file of a table or of staged rows of some calls is at the place. -/
def Touches (d : Directory) (calls : List LoadStep) (place : String) : Prop :=
  ∃ step ∈ calls, d.place? (tableName step.table) = .ok place ∨ d.place? (stagedName step.load step.table) = .ok place

/--
The file that a call needs can be used. A commit needs that of its table if rows are staged, and to drop rows no file is
needed when nothing is on the way to one.
-/
def Usable (d : Directory) (files : Record Bytes) (calls : List LoadStep) : LoadStep → Prop
  | .stage load table rows => rows = [] ∨ ∃ lain, d.place? (stagedName load table) = .ok lain
  | .commit load table => (∃ shown, d.place? (tableName table) = .ok shown) ∨
    ∀ rows, .stage load table rows ∈ calls → rows = []
  | .abort load table => (∃ lain, d.place? (stagedName load table) = .ok lain) ∨
    ∃ gap, d.place? (stagedName load table) = .error (.noDirectory gap) ∧ files.get? gap = none ∧ ¬Touches d calls gap

/-- Calls on which files do what memory does, when there are the given files at the beginning. -/
structure Orderly (d : Directory) (files : Record Bytes) (fields : String → List String) (calls : List LoadStep) :
    Prop where
  usable : ∀ step ∈ calls, Usable d files calls step
  /-- The files of the calls are not there yet. -/
  fresh : ∀ place, Touches d calls place → files.get? place = none
  /-- The rows of a table have the same fields. -/
  uniform : ∀ step ∈ calls, ∀ row ∈ step.rows, row.names.Perm (fields step.table)
  tidy : ∀ step ∈ calls, step.rows ≠ [] → Csv.IsTidy (fields step.table)
  /-- Tables that differ have different files. -/
  tables : ∀ a ∈ calls, ∀ b ∈ calls, d.Same (tableName a.table) (tableName b.table) → a.table = b.table
  /-- So have the rows that are staged under different loads or for different tables. -/
  staged : ∀ a ∈ calls, ∀ b ∈ calls, d.Same (stagedName a.load a.table) (stagedName b.load b.table) →
    (a.load, a.table) = (b.load, b.table)
  /-- No table has the file of staged rows. -/
  apart : ∀ a ∈ calls, ∀ b ∈ calls, ¬d.Same (tableName a.table) (stagedName b.load b.table)

/-- The columns of a table, as far as they are known. -/
def columnsOf (w : TableFiles) (table : String) : List String := (w.columns.get? table).getD []

/-- The file of a table that shows the rows. -/
def tableFile? (columns : List String) (rows : List TableRow) : Option Bytes :=
  if rows.isEmpty then none
  else some (Csv.writtenRecord (columns.map Text.encode) ++ Csv.written (rows.map (recordOf columns)))

/-- The file of staged rows. -/
def stagedFile? (columns : List String) (rows : List TableRow) : Option Bytes :=
  if rows.isEmpty then none else some (Csv.written (rows.map (recordOf columns)))

/-- The bytes that stand in the files of the tables of some calls. -/
def tableBytes (w : TableFiles) (d : Directory) (calls : List LoadStep) : Nat :=
  ((calls.map LoadStep.table).dedup.map fun table => (w.content d (tableName table)).length).sum

/-- What the files of some calls hold, told by what the memory holds. -/
structure Mirrors (d : Directory) (files : Record Bytes) (fields : String → List String) (calls : List LoadStep)
    (w : TableFiles) (m : Warehouse) : Prop where
  tables : ∀ step ∈ calls, w.file? d (tableName step.table) =
    tableFile? (w.columnsOf step.table) (m.rows step.table)
  staged : ∀ step ∈ calls, w.file? d (stagedName step.load step.table) =
    stagedFile? (w.columnsOf step.table) (m.stagedRows step.load step.table)
  /-- All other files are those of the beginning. -/
  others : ∀ place, ¬Touches d calls place → w.files.get? place = files.get? place
  /-- The columns of a table are known when it has rows. -/
  known : ∀ table, w.columns.get? table = none → m.rows table = [] ∧ ∀ load, m.stagedRows load table = []
  columns : ∀ step ∈ calls, step.rows ≠ [] → ∀ columns, w.columns.get? step.table = some columns →
    columns.Perm (fields step.table)
  count : ∀ load table, w.stagedCount load table = (m.stagedRows load table).length
  /-- Rows that are staged have been staged by a call, in a file. -/
  lies : ∀ load table, m.stagedRows load table ≠ [] →
    (∃ rows, .stage load table rows ∈ calls ∧ rows ≠ []) ∧ ∃ lain, d.place? (stagedName load table) = .ok lain
  bytes : w.bytesWritten = w.tableBytes d calls

variable {d : Directory} {files : Record Bytes} {fields : String → List String} {calls : List LoadStep}
  {w : TableFiles} {m : Warehouse} {load : LoadId} {table name shown lain : String} {columns : List String}
  {rows more : List TableRow}

/-! ## Files and what they show -/

theorem columnsOf_of_known (known : w.columns.get? table = some columns) : w.columnsOf table = columns := by
  rw [columnsOf, known]
  rfl

theorem stagedFile?_append (filled : more ≠ []) : stagedFile? columns (rows ++ more) =
    some ((stagedFile? columns rows).getD [] ++ Csv.written (more.map (recordOf columns))) := by
  rw [stagedFile?, if_neg (by simp [filled]), List.map_append, written_append, stagedFile?]
  cases rows <;> rfl

/-- Records that are added to the file of a table come behind a header when there was no file. -/
theorem tableFile?_append (filled : more ≠ []) :
    let before := (tableFile? columns rows).getD []
    let header := if before.isEmpty then Csv.writtenRecord (columns.map Text.encode) else []
    tableFile? columns (rows ++ more) =
      some (before ++ (header ++ Csv.written (more.map (recordOf columns)))) := by
  intro before header
  have together : (rows ++ more).isEmpty = false := by simp [filled]
  rw [tableFile?, together, if_neg Bool.false_ne_true]
  cases rows with
  | nil => rfl
  | cons row rows =>
    have some : before = Csv.writtenRecord (columns.map Text.encode) ++
        Csv.written ((row :: rows).map (recordOf columns)) := rfl
    have noHeader : header = [] := if_neg (by simp [some, Csv.writtenRecord])
    rw [noHeader, some, List.map_append, written_append, List.nil_append, List.append_assoc]

/-- One number of a sum grows. -/
theorem sum_map_grown {α : Type} [DecidableEq α] {l : List α} (distinct : l.Nodup) {a : α} (mem : a ∈ l)
    {f g : α → Nat} {n : Nat} (there : g a = f a + n) (others : ∀ b ∈ l, b ≠ a → g b = f b) :
    (l.map g).sum = (l.map f).sum + n := by
  have rest : (l.erase a).map g = (l.erase a).map f :=
    List.map_congr_left fun b hb =>
      have ⟨other, inside⟩ := distinct.mem_erase_iff.mp hb
      others b inside other
  rw [← List.sum_map_erase g mem, ← List.sum_map_erase f mem, rest, there]
  omega

theorem tableBytes_congr {w' : TableFiles}
    (same : ∀ step ∈ calls, w'.file? d (tableName step.table) = w.file? d (tableName step.table)) :
    w'.tableBytes d calls = w.tableBytes d calls := by
  refine congrArg List.sum (List.map_congr_left fun table mem => ?_)
  obtain ⟨step, called, rfl⟩ := List.mem_map.mp (List.mem_dedup.mp mem)
  rw [content, same step called, content]

/-- A file that is not the one of another name is at another place. -/
theorem ne_of_not_same {other : String} (apart : ¬d.Same name other) (there : d.place? other = .ok lain)
    {place : String} (here : d.place? name = .ok place) : place ≠ lain := by
  rintro rfl
  exact apart ⟨place, here, there⟩

theorem file?_lay (lies : d.place? (stagedName load table) = .ok lain) (apart : ¬d.Same name (stagedName load table)) :
    (w.lay columns load table lain rows).file? d name = w.file? d name :=
  file?_congr fun _ here => (get?_lay _).trans (if_neg (ne_of_not_same apart lies here).symm)

theorem file?_remove (lies : d.place? (stagedName load table) = .ok lain)
    (apart : ¬d.Same name (stagedName load table)) : (w.remove lain).file? d name = w.file? d name :=
  file?_congr fun _ here => (Record.get?_erase ..).trans (if_neg (ne_of_not_same apart lies here).symm)

theorem file?_publish (placed : d.place? (tableName table) = .ok shown)
    (lies : d.place? (stagedName load table) = .ok lain) (apart : ¬d.Same name (stagedName load table))
    (other : ¬d.Same name (tableName table)) :
    (w.publish columns load table shown lain).file? d name = w.file? d name := by
  refine file?_congr fun place here => ?_
  rw [get?_publish, if_neg (ne_of_not_same apart lies here).symm, if_neg (ne_of_not_same other placed here).symm]

/-- The file of the table grows by what is appended, and is the only one to grow. -/
theorem tableBytes_publish (orderly : Orderly d files fields calls) (step : LoadStep) (called : step ∈ calls)
    (placed : d.place? (tableName step.table) = .ok shown)
    (lies : d.place? (stagedName step.load step.table) = .ok lain) :
    (w.publish columns step.load step.table shown lain).tableBytes d calls =
      w.tableBytes d calls + (w.added columns shown lain).length := by
  have apart (a : LoadStep) (mem : a ∈ calls) := orderly.apart a mem step called
  refine sum_map_grown (List.nodup_dedup _) (List.mem_dedup.mpr (List.mem_map_of_mem called)) ?_ fun t ht other => ?_
  · rw [content_of_place placed, content_of_place placed, contentAt, get?_publish,
      if_neg (ne_of_not_same (apart step called) lies placed).symm, if_pos rfl]
    exact List.length_append
  · obtain ⟨a, mem, rfl⟩ := List.mem_map.mp (List.mem_dedup.mp ht)
    rw [content, file?_publish placed lies (apart a mem) fun same => other (orderly.tables a mem step called same),
      content]

/-! ## One call -/

namespace Mirrors

/-- The columns of a table become known before it has rows. -/
theorem register (h : Mirrors d files fields calls w m) (unknown : w.columns.get? table = none)
    (perm : columns.Perm (fields table)) : Mirrors d files fields calls (w.withColumns table columns) m := by
  obtain ⟨noRows, noStaged⟩ := h.known table unknown
  have other (t : String) (ne : t ≠ table) : (w.withColumns table columns).columns.get? t = w.columns.get? t :=
    Record.get?_set_of_ne _ _ ne.symm
  have columnsOf (t : String) (ne : t ≠ table) : (w.withColumns table columns).columnsOf t = w.columnsOf t := by
    rw [TableFiles.columnsOf, other t ne, TableFiles.columnsOf]
  constructor
  case tables =>
    intro step called
    refine (h.tables step called).trans ?_
    by_cases same : step.table = table
    · rw [same, noRows]
      rfl
    · rw [columnsOf _ same]
  case staged =>
    intro step called
    refine (h.staged step called).trans ?_
    by_cases same : step.table = table
    · rw [same, noStaged]
      rfl
    · rw [columnsOf _ same]
  case others => exact h.others
  case known =>
    intro t none
    by_cases same : t = table
    · rw [same]
      exact ⟨noRows, noStaged⟩
    · exact h.known t ((other t same).symm.trans none)
  case columns =>
    intro step called filled chosen found
    by_cases same : step.table = table
    · rw [same, withColumns, Record.get?_set_self] at found
      cases found
      rwa [same]
    · exact h.columns step called filled chosen ((other _ same).symm.trans found)
  case count => exact h.count
  case lies => exact h.lies
  case bytes => exact h.bytes

/-- Rows that are staged come behind those in their file. -/
theorem lay (h : Mirrors d files fields calls (w.withColumns table columns) m) (orderly : Orderly d files fields calls)
    (called : LoadStep.stage load table rows ∈ calls) (filled : rows ≠ [])
    (lies : d.place? (stagedName load table) = .ok lain) :
    Mirrors d files fields calls (w.lay columns load table lain rows) (m.stage load table rows) := by
  have known : (w.withColumns table columns).columns.get? table = some columns := Record.get?_set_self ..
  have shownAlike (step : LoadStep) (mem : step ∈ calls) :
      (w.lay columns load table lain rows).file? d (tableName step.table) = w.file? d (tableName step.table) :=
    file?_lay lies (orderly.apart step mem (.stage load table rows) called)
  constructor
  case tables => exact fun step mem => (shownAlike step mem).trans (h.tables step mem)
  case staged =>
    intro step mem
    have staged : w.file? d (stagedName step.load step.table) =
        stagedFile? ((w.withColumns table columns).columnsOf step.table) (m.stagedRows step.load step.table) :=
      h.staged step mem
    change _ = stagedFile? ((w.withColumns table columns).columnsOf step.table) _
    rw [Warehouse.stagedRows_stage]
    by_cases same : (load, table) = (step.load, step.table)
    · obtain ⟨rfl, rfl⟩ := Prod.mk.inj same
      rw [columnsOf_of_known known, file?_of_place lies] at staged ⊢
      rw [get?_lay, if_pos rfl, if_pos rfl, stagedFile?_append filled, contentAt, staged]
    · have other : ¬d.Same (stagedName step.load step.table) (stagedName load table) :=
        fun names => same (orderly.staged step mem (.stage load table rows) called names).symm
      rw [file?_lay lies other, if_neg same, List.append_nil, staged]
  case others =>
    intro place free
    have other : lain ≠ place := by
      rintro rfl
      exact free ⟨_, called, .inr lies⟩
    rw [get?_lay, if_neg other]
    exact h.others place free
  case known =>
    intro t unknown
    have other : t ≠ table := by
      rintro rfl
      cases known.symm.trans unknown
    obtain ⟨noRows, noStaged⟩ := h.known t unknown
    refine ⟨noRows, fun l => ?_⟩
    rw [Warehouse.stagedRows_stage, noStaged, if_neg fun same => other (Prod.mk.inj same).2.symm]
    rfl
  case columns => exact h.columns
  case count =>
    intro l t
    have counted : w.stagedCount l t = (m.stagedRows l t).length := h.count l t
    rw [stagedCount_lay, counted, Warehouse.stagedRows_stage, List.length_append]
    split <;> rfl
  case lies =>
    intro l t staged
    by_cases same : (load, table) = (l, t)
    · cases same
      exact ⟨⟨rows, called, filled⟩, lain, lies⟩
    · rw [Warehouse.stagedRows_stage, if_neg same, List.append_nil] at staged
      exact h.lies l t staged
  case bytes => exact h.bytes.trans (tableBytes_congr shownAlike).symm

/-- A load that is settled has no file of staged rows, and at most its table shows other rows. -/
theorem settled (h : Mirrors d files fields calls w m) (orderly : Orderly d files fields calls) {last : LoadStep}
    (called : last ∈ calls) {w' : TableFiles} {m' : Warehouse} (columns : w'.columns = w.columns)
    (staged : w'.staged = (w.unstage last.load last.table).staged)
    (unstaged : m'.staged = (m.unstage last.load last.table).staged)
    (rows : ∀ t, m'.rows t = m.rows t ∨ t = last.table ∧ m.stagedRows last.load last.table ≠ [])
    (gone : w'.file? d (stagedName last.load last.table) = none)
    (shown : w'.file? d (tableName last.table) = tableFile? (w.columnsOf last.table) (m'.rows last.table))
    (kept : ∀ name, ¬d.Same name (stagedName last.load last.table) → ¬d.Same name (tableName last.table) →
      w'.file? d name = w.file? d name)
    (others : ∀ place, ¬Touches d calls place → w'.files.get? place = w.files.get? place)
    (bytes : w'.bytesWritten = w'.tableBytes d calls) : Mirrors d files fields calls w' m' := by
  have columnsOf (t : String) : w'.columnsOf t = w.columnsOf t := by
    rw [TableFiles.columnsOf, columns, TableFiles.columnsOf]
  have stagedRows (l : LoadId) (t : String) : m'.stagedRows l t =
      if (last.load, last.table) = (l, t) then [] else m.stagedRows l t := by
    rw [← Warehouse.stagedRows_unstage, Warehouse.stagedRows, unstaged, Warehouse.stagedRows]
  constructor
  case tables =>
    intro step mem
    rw [columnsOf]
    by_cases same : step.table = last.table
    · rw [same, shown]
    · rw [kept _ (orderly.apart step mem last called) fun names => same (orderly.tables step mem last called names),
        h.tables step mem]
      rcases rows step.table with same' | ⟨wrong, -⟩
      · rw [same']
      · exact absurd wrong same
  case staged =>
    intro step mem
    rw [columnsOf, stagedRows]
    by_cases same : (last.load, last.table) = (step.load, step.table)
    · obtain ⟨loads, names⟩ := Prod.mk.inj same
      rw [if_pos same, ← loads, ← names, gone]
      rfl
    · have other : ¬d.Same (stagedName step.load step.table) (stagedName last.load last.table) :=
        fun names => same (orderly.staged step mem last called names).symm
      have noTable : ¬d.Same (stagedName step.load step.table) (tableName last.table) :=
        fun names => orderly.apart last called step mem names.symm
      rw [if_neg same, kept _ other noTable, h.staged step mem]
  case others => exact fun place free => (others place free).trans (h.others place free)
  case known =>
    intro t none
    rw [columns] at none
    obtain ⟨noRows, noStaged⟩ := h.known t none
    refine ⟨?_, fun l => ?_⟩
    · rcases rows t with same | ⟨rfl, some⟩
      · rw [same, noRows]
      · exact absurd (noStaged _) some
    · rw [stagedRows, noStaged]
      split <;> rfl
  case columns =>
    rw [columns]
    exact h.columns
  case count =>
    intro l t
    rw [stagedCount, staged, unstage, lookup_filter_ne, stagedRows]
    split
    · rfl
    · exact h.count l t
  case lies =>
    intro l t some
    rw [stagedRows] at some
    split at some
    · exact absurd rfl some
    · exact h.lies l t some
  case bytes => exact bytes

/-- Only what the memory shows and what is staged in it counts. -/
theorem of_same (h : Mirrors d files fields calls w m) {m' : Warehouse} (rows : ∀ t, m'.rows t = m.rows t)
    (staged : ∀ l t, m'.stagedRows l t = m.stagedRows l t) : Mirrors d files fields calls w m' where
  tables step called := by rw [rows, h.tables step called]
  staged step called := by rw [staged, h.staged step called]
  others := h.others
  known t none := by
    obtain ⟨noRows, noStaged⟩ := h.known t none
    exact ⟨(rows t).trans noRows, fun l => (staged l t).trans (noStaged l)⟩
  columns := h.columns
  count l t := by rw [staged, h.count]
  lies l t some := h.lies l t (staged l t ▸ some)
  bytes := h.bytes

/-- The columns that the first rows decide are those of all rows of their table. -/
theorem choose (h : Mirrors d files fields calls w m) (orderly : Orderly d files fields calls)
    (called : LoadStep.stage load table rows ∈ calls) (filled : rows ≠ []) :
    Mirrors d files fields calls (w.withColumns table (w.columnsFor table rows)) m := by
  cases found : w.columns.get? table with
  | some columns => rwa [columnsFor_of_known found, withColumns_of_known found]
  | none =>
    apply h.register found
    obtain ⟨row, rest, rfl⟩ := List.exists_cons_of_ne_nil filled
    rw [columnsFor, found]
    exact orderly.uniform _ called row List.mem_cons_self

theorem stage (h : Mirrors d files fields calls w m) (orderly : Orderly d files fields calls)
    (called : LoadStep.stage load table rows ∈ calls) :
    (TableFiles.stage d load table rows w).1 = .ok rows.length ∧
      Mirrors d files fields calls (TableFiles.stage d load table rows w).2 (m.stage load table rows) := by
  by_cases filled : rows = []
  · subst filled
    have nothing : TableFiles.stage d load table [] w = (.ok 0, w) := if_pos rfl
    have rows (t : String) : (m.stage load table []).rows t = m.rows t := rfl
    rw [nothing]
    refine ⟨rfl, h.of_same rows fun l t => ?_⟩
    rw [Warehouse.stagedRows_stage, ite_self, List.append_nil]
  · obtain ⟨lain, lies⟩ := (orderly.usable _ called).resolve_left filled
    rw [stage_of_placed filled lies]
    exact ⟨rfl, (h.choose orderly called filled).lay orderly called filled lies⟩

/-- What a commit shows changes the rows of its table, and only if something is staged for it. -/
theorem rows_after_commit (t : String) : (m.commit load table).2.rows t = m.rows t ∨
    t = table ∧ m.stagedRows load table ≠ [] := by
  rw [Warehouse.rows_commit]
  split
  · next same =>
    by_cases idle : m.stagedRows load table = []
    · exact .inl (by rw [idle, List.append_nil])
    · exact .inr ⟨same.symm, idle⟩
  · exact .inl (List.append_nil _)

/-- A commit of nothing leaves the files as they are. -/
theorem commit_idle (h : Mirrors d files fields calls w m) (orderly : Orderly d files fields calls)
    (called : LoadStep.commit load table ∈ calls) (idle : m.stagedRows load table = []) :
    TableFiles.commit d load table w = (.ok 0, w.unstage load table) ∧
      Mirrors d files fields calls (w.unstage load table) (m.commit load table).2 := by
  have gone : w.file? d (stagedName load table) = stagedFile? (w.columnsOf table) (m.stagedRows load table) :=
    h.staged (.commit load table) called
  rw [idle] at gone
  have shown : w.file? d (tableName table) =
      tableFile? (w.columnsOf table) ((m.commit load table).2.rows table) := by
    rw [Warehouse.rows_commit, if_pos rfl, idle, List.append_nil]
    exact h.tables (.commit load table) called
  refine ⟨?_, h.settled orderly called rfl rfl rfl rows_after_commit gone shown (fun _ _ _ => rfl) (fun _ _ => rfl)
    h.bytes⟩
  rw [TableFiles.commit, h.count, idle]
  rfl

/-- A commit of staged rows appends them to the file of their table. -/
theorem commit_staged (h : Mirrors d files fields calls w m) (orderly : Orderly d files fields calls)
    (called : LoadStep.commit load table ∈ calls) (some : m.stagedRows load table ≠ []) :
    ∃ w', TableFiles.commit d load table w = (.ok (m.stagedRows load table).length, w') ∧
      Mirrors d files fields calls w' (m.commit load table).2 := by
  obtain ⟨columns, known⟩ : ∃ columns, w.columns.get? table = .some columns := by
    cases found : w.columns.get? table with
    | none => exact absurd ((h.known table found).2 load) some
    | some columns => exact ⟨columns, rfl⟩
  obtain ⟨⟨rows, rowsCalled, filled⟩, lain, lies⟩ := h.lies load table some
  obtain ⟨shown, placed⟩ := (orderly.usable _ called).resolve_right fun none => filled (none rows rowsCalled)
  have before : w.files.get? shown = tableFile? columns (m.rows table) := by
    rw [← columnsOf_of_known known, ← file?_of_place placed]
    exact h.tables (.commit load table) called
  have staged : w.files.get? lain = .some (Csv.written ((m.stagedRows load table).map (recordOf columns))) := by
    have told : w.file? d (stagedName load table) = stagedFile? (w.columnsOf table) (m.stagedRows load table) :=
      h.staged (.commit load table) called
    rw [stagedFile?, if_neg (by simpa using some)] at told
    rw [← file?_of_place lies, ← columnsOf_of_known known]
    exact told
  have apart : ¬d.Same (tableName table) (stagedName load table) :=
    orderly.apart (.commit load table) called (.commit load table) called
  have other : shown ≠ lain := ne_of_not_same apart lies placed
  have appended : tableFile? columns (m.rows table ++ m.stagedRows load table) =
      .some (w.contentAt shown ++ w.added columns shown lain) := by
    rw [added, contentAt, contentAt, before, staged]
    exact tableFile?_append some
  refine ⟨w.publish columns load table shown lain, ?_, h.settled orderly called rfl rfl rfl rows_after_commit ?_ ?_
    (fun name => file?_publish placed lies) (fun place free => ?_) ?_⟩
  · rw [← h.count]
    exact commit_of_placed known (by rw [h.count]; simpa using some) placed lies other (by rw [staged]; rfl)
  · exact (file?_of_place lies).trans ((get?_publish lain).trans (if_pos rfl))
  · change (w.publish ..).file? d (tableName table) =
      tableFile? (w.columnsOf table) ((m.commit load table).2.rows table)
    rw [file?_of_place placed, get?_publish, if_neg other.symm, if_pos rfl, Warehouse.rows_commit, if_pos rfl,
      columnsOf_of_known known, appended]
  · rw [get?_publish, if_neg, if_neg]
    · rintro rfl
      exact free ⟨_, called, .inl placed⟩
    · rintro rfl
      exact free ⟨_, called, .inr lies⟩
  · have grown : (w.publish columns load table shown lain).tableBytes d calls =
        w.tableBytes d calls + (w.added columns shown lain).length :=
      tableBytes_publish orderly (.commit load table) called placed lies
    rw [grown, ← h.bytes]
    rfl

theorem commit (h : Mirrors d files fields calls w m) (orderly : Orderly d files fields calls)
    (called : LoadStep.commit load table ∈ calls) :
    (TableFiles.commit d load table w).1 = .ok (m.stagedRows load table).length ∧
      Mirrors d files fields calls (TableFiles.commit d load table w).2 (m.commit load table).2 := by
  by_cases idle : m.stagedRows load table = []
  · obtain ⟨form, mirrors⟩ := h.commit_idle orderly called idle
    rw [form, idle]
    exact ⟨rfl, mirrors⟩
  · obtain ⟨w', form, mirrors⟩ := h.commit_staged orderly called idle
    rw [form]
    exact ⟨rfl, mirrors⟩

theorem abort (h : Mirrors d files fields calls w m) (orderly : Orderly d files fields calls)
    (called : LoadStep.abort load table ∈ calls) :
    (TableFiles.abort d load table w).1 = .ok () ∧
      Mirrors d files fields calls (TableFiles.abort d load table w).2 (m.unstage load table) := by
  have shown : w.file? d (tableName table) = tableFile? (w.columnsOf table) (m.rows table) :=
    h.tables (.abort load table) called
  have lain : w.file? d (stagedName load table) = stagedFile? (w.columnsOf table) (m.stagedRows load table) :=
    h.staged (.abort load table) called
  have rows (t : String) : (m.unstage load table).rows t = m.rows t ∨
      t = table ∧ m.stagedRows load table ≠ [] := .inl rfl
  rcases orderly.usable (.abort load table) called with ⟨place, lies⟩ | ⟨gap, noWay, noFile, free⟩
  · rw [abort_of_placed lies]
    have kept (name : String) (other : ¬d.Same name (stagedName load table)) :
        ((w.unstage load table).remove place).file? d name = w.file? d name := file?_remove lies other
    have shownAlike (step : LoadStep) (mem : step ∈ calls) := kept _ (orderly.apart step mem (.abort load table) called)
    refine ⟨rfl, h.settled orderly called rfl rfl rfl rows ?_ ?_ (fun name other _ => kept name other) ?_ ?_⟩
    · exact (file?_of_place lies).trans ((Record.get?_erase ..).trans (if_pos rfl))
    · exact (shownAlike _ called).trans shown
    · intro other away
      refine (Record.get?_erase ..).trans (if_neg ?_)
      rintro rfl
      exact away ⟨_, called, .inr lies⟩
    · exact h.bytes.trans (tableBytes_congr shownAlike).symm
  · have missing : (w.unstage load table).open? d (stagedName load table) = .error .missing := by
      have nothing : (w.unstage load table).files.get? gap = none := (h.others gap free).trans noFile
      rw [open?, noWay]
      simp only [faultOf, nothing]
      rfl
    have form : TableFiles.abort d load table w = (.ok (), w.unstage load table) := by
      rw [TableFiles.abort]
      simp only [missing]
    have none : m.stagedRows load table = [] := by
      by_contra some
      obtain ⟨-, place, lies⟩ := h.lies load table some
      cases noWay.symm.trans lies
    rw [none] at lain
    rw [form]
    exact ⟨rfl, h.settled orderly called rfl rfl rfl rows lain shown (fun _ _ _ => rfl) (fun _ _ => rfl) h.bytes⟩

/-- **One call keeps the files in step with the memory**, and gets the same answer. -/
theorem answer (h : Mirrors d files fields calls w m) (orderly : Orderly d files fields calls) {step : LoadStep}
    (called : step ∈ calls) :
    ((loader d).answer step w).1 = (Warehouse.loader.answer step m).1 ∧
      Mirrors d files fields calls ((loader d).answer step w).2 (Warehouse.loader.answer step m).2 := by
  cases step with
  | stage load table rows =>
    obtain ⟨counted, mirrors⟩ := h.stage orderly called
    exact ⟨congrArg (Except.map some) counted, mirrors⟩
  | commit load table =>
    obtain ⟨counted, mirrors⟩ := h.commit orderly called
    exact ⟨congrArg (Except.map some) counted, mirrors⟩
  | abort load table =>
    obtain ⟨dropped, mirrors⟩ := h.abort orderly called
    exact ⟨congrArg (Except.map fun _ => none) dropped, mirrors⟩

theorem run (h : Mirrors d files fields calls w m) (orderly : Orderly d files fields calls) {steps : List LoadStep}
    (called : steps ⊆ calls) : ((loader d).run steps w).1 = (Warehouse.loader.run steps m).1 ∧
      Mirrors d files fields calls ((loader d).run steps w).2 (Warehouse.loader.run steps m).2 := by
  induction steps generalizing w m with
  | nil => exact ⟨rfl, h⟩
  | cons step rest ih =>
    obtain ⟨first, others⟩ := List.cons_subset.mp called
    obtain ⟨same, mirrors⟩ := h.answer orderly first
    obtain ⟨answers, last⟩ := ih mirrors others
    exact ⟨congrArg₂ List.cons same answers, last⟩

end Mirrors

end TableFiles

end RecordGate
