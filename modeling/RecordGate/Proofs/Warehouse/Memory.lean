import RecordGate.Proofs.Record
import RecordGate.Warehouse.Memory

/-!
# Loads of a warehouse in memory

A load that is under way shows up nowhere but among the staged rows (`Warehouse.Staging`). When it is
committed, its rows stand at the end of the table and every other table is as it was
(`Warehouse.rows_loaded`, `Warehouse.tables_loaded`); when it is aborted, the warehouse is as it was before
the first row was staged.
-/

namespace RecordGate.Warehouse

/-- A warehouse after the rows of a table have been loaded. -/
def loaded (w : Warehouse) (table : String) (rows : List TableRow) : Warehouse :=
  { w with tables := w.tables.set table (w.rows table ++ rows) }

theorem rows_loaded (w : Warehouse) (table : String) (rows : List TableRow) :
    (w.loaded table rows).rows table = w.rows table ++ rows := by
  rw [Warehouse.rows, loaded, Record.get?_set_self]
  rfl

theorem tables_loaded (w : Warehouse) {table other : String} (rows : List TableRow) (h : other ≠ table) :
    (w.loaded table rows).tables.get? other = w.tables.get? other :=
  Record.get?_set_of_ne w.tables _ h.symm

/-- The load is unknown to the warehouse. -/
def Unstaged (w : Warehouse) (load : LoadId) (table : String) : Prop := ∀ e ∈ w.staged, e.1 ≠ (load, table)

theorem unstaged_of_lt {w : Warehouse} {load : LoadId} (h : ∀ e ∈ w.staged, e.1.1 < load) (table : String) :
    w.Unstaged load table := by
  intro e he same
  have small := h e he
  rw [same] at small
  exact Nat.lt_irrefl load small

theorem unstage_of_unstaged {w : Warehouse} {load : LoadId} {table : String} (h : w.Unstaged load table) :
    w.unstage load table = w := by
  have kept : w.staged.filter (·.1 != (load, table)) = w.staged :=
    List.filter_eq_self.mpr fun e he => bne_iff_ne.mpr (h e he)
  rw [unstage, kept]

theorem stagedRows_of_unstaged {w : Warehouse} {load : LoadId} {table : String} (h : w.Unstaged load table) :
    w.stagedRows load table = [] := by
  have absent : w.staged.lookup (load, table) = none :=
    List.lookup_eq_none_iff.mpr fun e he => bne_iff_ne.mpr (h e he).symm
  rw [stagedRows, absent]
  rfl

/-- From `start`, nothing has happened but that these rows were staged under the load. -/
structure Staging (start : Warehouse) (load : LoadId) (table : String) (rows : List TableRow) (w : Warehouse) :
    Prop where
  others : w.unstage load table = start
  rows : w.stagedRows load table = rows

namespace Staging

variable {start w : Warehouse} {load : LoadId} {table : String} {rows more : List TableRow}

theorem refl (h : start.Unstaged load table) : Staging start load table [] start :=
  ⟨unstage_of_unstaged h, stagedRows_of_unstaged h⟩

theorem stage (h : Staging start load table rows w) :
    Staging start load table (rows ++ more) (w.stage load table more) where
  others := by
    rw [← h.others, Warehouse.stage, unstage, unstage]
    simp
  rows := by
    rw [stagedRows, Warehouse.stage, List.lookup_cons_self, h.rows]
    rfl

/-- Committing makes exactly the staged rows visible. -/
theorem commit (h : Staging start load table rows w) :
    w.commit load table = (rows.length, start.loaded table rows) := by
  rw [Warehouse.commit, h.rows, h.others]
  rfl

end Staging

end RecordGate.Warehouse
