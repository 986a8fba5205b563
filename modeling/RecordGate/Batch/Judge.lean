import RecordGate.Batch.Outcome
import RecordGate.File.Item
import RecordGate.Warehouse.Basic

/-!
# Judging rows

A row is checked against the schema; if nothing critical is found, the rules are evaluated on its
values. A row that stays valid is loaded with these values.

The rows of a batch may be judged side by side when no rule looks at earlier rows; otherwise each row
sees the state that the row before it left.

Main definitions: `Judge`, `Judge.row`, `Judge.batch`.
-/

namespace RecordGate

/-- A row to be judged, or the reason why it could not be read. -/
abbrev PendingRow := Except RowError RawRow

/-- The outcome of a row, and its values if it is valid. -/
structure Judged where
  outcome : RowOutcome
  values : Option TableRow
deriving DecidableEq

/-- What rows are judged by. -/
structure Judge where
  schema : Schema
  engine : Pattern.Engine
  plan : RulePlan
  workers : Nat

namespace Judge

/-- Whether the rows of a batch are judged side by side. -/
def isParallel (g : Judge) : Bool := !g.plan.isStateful && g.workers > 1

/-- Judges a row. -/
def row (g : Judge) (file : FileState) : PendingRow → Judged × FileState
  | .error e => (⟨.of e.row [.unreadable e.row e.message] [], none⟩, file)
  | .ok r =>
    let check := g.schema.check g.engine r file.asOf
    let (violations, file) :=
      if check.hasCritical then ([], file) else g.plan.evaluate r.index check.values file
    let outcome : RowOutcome := .of r.index check.errors violations
    (⟨outcome, if outcome.isValid then some check.values else none⟩, file)

/-- Judges rows one after the other. -/
def inOrder (g : Judge) : FileState → List PendingRow → List Judged × FileState
  | file, [] => ([], file)
  | file, r :: rest =>
    let (judged, file) := g.row file r
    let (later, file) := inOrder g file rest
    (judged :: later, file)

/-- Judges each row by itself. -/
def sideBySide (g : Judge) (file : FileState) (rows : List PendingRow) : List Judged :=
  rows.map fun r => (g.row file r).1

/-- Judges the rows of a batch. -/
def batch (g : Judge) (file : FileState) (rows : List PendingRow) : List Judged × FileState :=
  if g.isParallel then (g.sideBySide file rows, file) else g.inOrder file rows

end Judge

end RecordGate
