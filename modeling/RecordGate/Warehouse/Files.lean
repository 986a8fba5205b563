import RecordGate.Csv.Writer
import RecordGate.Warehouse.Basic
import RecordGate.Warehouse.Directory

/-!
# A warehouse of CSV files

A table is a file in a directory. Staged rows are appended to a file of their own, which is appended to
the table and removed when the load is committed. A header is written when the table is still empty.
The columns of a table are registered beforehand, or are the fields of its first staged row.

Files are told apart by their places, so names that lead to one place stand for one file.

Main definitions: `TableFiles`, `TableFiles.loader`.
-/

namespace RecordGate

/-- The files of a system, and what a warehouse knows of its tables. -/
structure TableFiles where
  /-- The files by place. -/
  files : Record Bytes
  /-- The columns of each table, in order. -/
  columns : Record (List String)
  /-- How many rows are staged. -/
  staged : List ((LoadId × String) × Nat)
  /-- How many bytes have been appended to tables. -/
  bytesWritten : Nat

/-- Why a file cannot be used. -/
inductive FileFault where
  | missing
  | notDirectory
  | refused (reason : String)
deriving DecidableEq

namespace FileFault

def message : FileFault → String
  | .missing => "No such file or directory (os error 2)"
  | .notDirectory => "Not a directory (os error 20)"
  | .refused reason => reason

def loadError (fault : FileFault) (table : String) : LoadError := ⟨table, fault.message, true⟩

end FileFault

namespace TableFiles

/-- A warehouse that finds the given files. -/
def ofFiles (files : Record Bytes) : TableFiles := ⟨files, .empty, [], 0⟩

/-- Registers the columns of a table. -/
def withColumns (w : TableFiles) (table : String) (columns : List String) : TableFiles :=
  { w with columns := w.columns.set table columns }

def tableName (table : String) : String := table ++ ".csv"

def stagedName (load : LoadId) (table : String) : String := s!"{table}.{load.name}.staged.csv"

/-! ## Files -/

/-- What stands in the file at a place; nothing, if there is none. -/
def contentAt (w : TableFiles) (place : String) : Bytes := (w.files.get? place).getD []

/-- Appends to the file at a place, which is made if there is none. -/
def append (w : TableFiles) (place : String) (added : Bytes) : TableFiles :=
  { w with files := w.files.set place (w.contentAt place ++ added) }

def remove (w : TableFiles) (place : String) : TableFiles := { w with files := w.files.erase place }

/-- What is wrong when there can be no file at a path. -/
def faultOf (w : TableFiles) : PathFault → FileFault
  | .noDirectory place => if (w.files.get? place).isSome then .notDirectory else .missing
  | .refused reason => .refused reason

/-- The file of a name, which has to be there, with its place. -/
def open? (w : TableFiles) (d : Directory) (name : String) : Except FileFault (String × Bytes) :=
  match d.place? name with
  | .error fault => .error (w.faultOf fault)
  | .ok place =>
    match w.files.get? place with
    | some bytes => .ok (place, bytes)
    | none => .error .missing

/-! ## Rows -/

/-- The columns of a table; rows decide them when none are known. -/
def columnsFor (w : TableFiles) (table : String) (rows : List TableRow) : List String :=
  (w.columns.get? table).getD ((rows.head?.map Record.names).getD [])

/-- The record of a row. A column that the row lacks is empty. -/
def recordOf (columns : List String) (row : TableRow) : List Bytes :=
  columns.map fun c => Text.encode ((row.get? c).map Value.written |>.getD "")

/-- Forgets how many rows are staged. -/
def unstage (w : TableFiles) (load : LoadId) (table : String) : TableFiles :=
  { w with staged := w.staged.filter (·.1 != (load, table)) }

/-- How many rows are staged. -/
def stagedCount (w : TableFiles) (load : LoadId) (table : String) : Nat :=
  (w.staged.lookup (load, table)).getD 0

/-! ## Loads -/

def stage (d : Directory) (load : LoadId) (table : String) (rows : List TableRow) (w : TableFiles) :
    Except LoadError Nat × TableFiles :=
  if rows.isEmpty then (.ok 0, w)
  else
    let columns := w.columnsFor table rows
    let w := w.withColumns table columns
    match d.place? (stagedName load table) with
    | .error fault => (.error ((w.faultOf fault).loadError table), w)
    | .ok place =>
      (.ok rows.length,
        { w.append place (Csv.written (rows.map (recordOf columns))) with
          staged := ((load, table), w.stagedCount load table + rows.length) :: (w.unstage load table).staged })

/-- The header comes before the staged file is looked for, and stays when there is none. -/
def commit (d : Directory) (load : LoadId) (table : String) (w : TableFiles) : Except LoadError Nat × TableFiles :=
  let count := w.stagedCount load table
  let w := w.unstage load table
  if count = 0 then (.ok 0, w)
  else
    let columns := w.columnsFor table []
    let w := w.withColumns table columns
    match d.place? (tableName table) with
    | .error fault => (.error ((w.faultOf fault).loadError table), w)
    | .ok shown =>
      let header := if (w.contentAt shown).isEmpty then Csv.writtenRecord (columns.map Text.encode) else []
      let w := w.append shown header
      match w.open? d (stagedName load table) with
      | .error fault => (.error (fault.loadError table), w)
      | .ok (place, staged) =>
        (.ok count,
          { (w.append shown staged).remove place with
            bytesWritten := w.bytesWritten + (header.length + staged.length) })

def abort (d : Directory) (load : LoadId) (table : String) (w : TableFiles) : Except LoadError Unit × TableFiles :=
  let w := w.unstage load table
  match w.open? d (stagedName load table) with
  | .error .missing => (.ok (), w)
  | .error fault => (.error (fault.loadError table), w)
  | .ok (place, _) => (.ok (), w.remove place)

/-- The operations of a warehouse of files in a directory. -/
def loader (d : Directory) : Loader TableFiles := ⟨stage d, commit d, abort d⟩

end TableFiles

end RecordGate
