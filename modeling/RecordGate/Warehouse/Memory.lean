import RecordGate.Warehouse.Basic

/-!
# A warehouse in memory

Tables are lists of rows. The rows that are staged lie apart, by load and table, until they are
committed or aborted. None of the operations fails.

Main definitions: `Warehouse`, `Warehouse.loader`.
-/

namespace RecordGate

/-- The visible rows of each table, and the staged rows of each load and table. -/
structure Warehouse where
  tables : Record (List TableRow)
  staged : List ((LoadId × String) × List TableRow)

namespace Warehouse

def empty : Warehouse := ⟨.empty, []⟩

/-- The visible rows of a table. -/
def rows (w : Warehouse) (table : String) : List TableRow := (w.tables.get? table).getD []

/-- The rows staged under a load for a table. -/
def stagedRows (w : Warehouse) (load : LoadId) (table : String) : List TableRow :=
  (w.staged.lookup (load, table)).getD []

/-- Whether something has been staged, be it no row. -/
def isPending (w : Warehouse) (load : LoadId) (table : String) : Bool :=
  (w.staged.lookup (load, table)).isSome

/-- The number of loads and tables that are neither committed nor aborted. -/
def pending (w : Warehouse) : Nat := w.staged.length

/-- Forgets what is staged under a load for a table. -/
def unstage (w : Warehouse) (load : LoadId) (table : String) : Warehouse :=
  { w with staged := w.staged.filter (·.1 != (load, table)) }

def stage (w : Warehouse) (load : LoadId) (table : String) (rows : List TableRow) : Warehouse :=
  { w.unstage load table with
    staged := ((load, table), w.stagedRows load table ++ rows) :: (w.unstage load table).staged }

def commit (w : Warehouse) (load : LoadId) (table : String) : Nat × Warehouse :=
  let rows := w.stagedRows load table
  let w := w.unstage load table
  (rows.length, { w with tables := w.tables.set table (w.rows table ++ rows) })

/-- The operations of a warehouse in memory. -/
def loader : Loader Warehouse where
  stage load table rows w := (.ok rows.length, w.stage load table rows)
  commit load table w :=
    let (count, w) := w.commit load table
    (.ok count, w)
  abort load table w := (.ok (), w.unstage load table)

end Warehouse

end RecordGate
