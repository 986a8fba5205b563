import RecordGate.Rule.Plan
import RecordGate.Schema.Check

/-!
# Outcomes of rows and batches

The outcome of a row is what was found about it, and whether it counts as valid; a batch is summed up by the
number of its rows and of its findings.

Main definitions: `RowOutcome`, `SeverityCounts`, `BatchSummary`.
-/

namespace RecordGate

/-- The findings about a row, and whether it counts as valid. -/
structure RowOutcome where
  row : Nat
  isValid : Bool
  fieldErrors : List FieldError
  violations : List Violation
deriving DecidableEq

namespace RowOutcome

/-- The outcome that the findings about a row give: it is valid when none of them invalidates it. -/
def of (row : Nat) (fieldErrors : List FieldError) (violations : List Violation) : RowOutcome where
  row
  isValid := !fieldErrors.any (·.severity.invalidates) && !violations.any (·.severity.invalidates)
  fieldErrors
  violations

/-- The severities of all findings, field errors first. -/
def severities (o : RowOutcome) : List Severity := o.fieldErrors.map (·.severity) ++ o.violations.map (·.severity)

end RowOutcome

/-- How many findings there are of each severity. -/
structure SeverityCounts where
  critical : Nat
  warning : Nat
  info : Nat
deriving DecidableEq

namespace SeverityCounts

def zero : SeverityCounts := ⟨0, 0, 0⟩

def add (c d : SeverityCounts) : SeverityCounts :=
  ⟨c.critical + d.critical, c.warning + d.warning, c.info + d.info⟩

instance : Add SeverityCounts := ⟨add⟩

/-- The counts of a list of severities. -/
def of (ss : List Severity) : SeverityCounts := ⟨ss.count .critical, ss.count .warning, ss.count .info⟩

end SeverityCounts

/-- A batch summed up. Batches are numbered from 0. -/
structure BatchSummary where
  index : Nat
  firstRow : Nat
  lastRow : Nat
  totalRows : Nat
  validRows : Nat
  invalidRows : Nat
  counts : SeverityCounts
deriving DecidableEq

namespace BatchSummary

/-- Sums up a batch. -/
def of (index : Nat) (outcomes : List RowOutcome) : BatchSummary where
  index
  firstRow := (outcomes.map (·.row)).min?.getD 0
  lastRow := (outcomes.map (·.row)).max?.getD 0
  totalRows := outcomes.length
  validRows := outcomes.countP (·.isValid)
  invalidRows := outcomes.length - outcomes.countP (·.isValid)
  counts := .of (outcomes.flatMap (·.severities))

/-- The summary when nothing of the file counts as valid. -/
def invalidated (s : BatchSummary) : BatchSummary := { s with validRows := 0, invalidRows := s.totalRows }

end BatchSummary

end RecordGate
