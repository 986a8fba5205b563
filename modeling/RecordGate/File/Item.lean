import RecordGate.Schema.Check

/-!
# What a file delivers

Reading a file gives its rows one after the other. A row that cannot be read is an error of its own,
and the rows after it are still read; when the file itself cannot be read on, that is the last item.

Main definitions: `RowError`, `FileError`, `RowItem`.
-/

namespace RecordGate

/-- A row that could not be read. -/
structure RowError where
  row : Nat
  message : String
deriving DecidableEq

def RowError.text (e : RowError) : String := s!"row {e.row}: {e.message}"

/-- A file that could not be read on. -/
structure FileError where
  rowsRead : Nat
  message : String
deriving DecidableEq

def FileError.text (e : FileError) : String := s!"file parse error after {e.rowsRead} row(s): {e.message}"

/-- An item of a file. -/
inductive RowItem where
  | row (r : RawRow)
  | unreadable (e : RowError)
  | failed (e : FileError)
deriving DecidableEq

namespace RowItem

/-- A row, or the reason why it could not be read. -/
def ofCells (index : Nat) : Except String (Record Cell) → RowItem
  | .ok cells => .row ⟨index, cells⟩
  | .error message => .unreadable ⟨index, message⟩

/-- The items of rows that are numbered from 1. -/
def numbered (rows : List (Except String (Record Cell))) : List RowItem :=
  (rows.zipIdx 1).map fun (r, index) => ofCells index r

end RowItem

end RecordGate
