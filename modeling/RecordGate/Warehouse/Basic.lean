import RecordGate.Record
import RecordGate.Value

/-!
# Warehouses

A warehouse takes the accepted rows of a file. Rows are staged under a load, and show up in their table
only when the load is committed; a load that is aborted leaves nothing behind.

Main definitions: `Loader` (the operations of a warehouse on its state), `LoadError`.
-/

namespace RecordGate

/-- The values of a row by field name, as they are loaded. -/
abbrev TableRow := Record Value

/-- The rows of one file in a warehouse go by the number of a load. -/
abbrev LoadId := Nat

/-- The name of a load. -/
def LoadId.name (load : LoadId) : String := s!"load-{load}"

/-- A failure of a warehouse. It is for the caller to know whether to try again. -/
structure LoadError where
  table : String
  message : String
  retryable : Bool
deriving DecidableEq

def LoadError.text (e : LoadError) : String := s!"warehouse load into {e.table} failed: {e.message}"

/-- The operations of a warehouse whose state is of type `σ`. -/
structure Loader (σ : Type) where
  /-- Stages rows of a table under a load, and counts them. -/
  stage : LoadId → (table : String) → List TableRow → σ → Except LoadError Nat × σ
  /-- Makes the staged rows of a load visible in the table, and counts them. -/
  commit : LoadId → (table : String) → σ → Except LoadError Nat × σ
  /-- Drops the staged rows of a load. -/
  abort : LoadId → (table : String) → σ → Except LoadError Unit × σ

end RecordGate
