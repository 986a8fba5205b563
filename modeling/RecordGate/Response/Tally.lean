import RecordGate.Response.Basic

/-!
# Adding up batches

A tally adds up the batches of a file one by one; nothing but their summaries and findings is kept. When
it is closed, the findings stand in the order of their rows. A file that failed has no valid row, since
nothing of it is loaded; what was found is kept.

Main definitions: `Tally`, `Tally.push`, `Tally.close`.
-/

namespace RecordGate

/-- What a response says of a file beside its rows. -/
structure FileMeta where
  source : String
  recordType : Option RecordType
  fingerprint : String
  warnings : List RuleWarning
deriving DecidableEq

/-- The sums over the batches so far. -/
structure Tally where
  about : FileMeta
  totalRows : Nat
  validRows : Nat
  invalidRows : Nat
  counts : SeverityCounts
  fieldErrors : List FieldError
  violations : List Violation
  batches : List BatchSummary
deriving DecidableEq

namespace Tally

/-- The tally before the first batch. -/
def start (about : FileMeta) : Tally := ⟨about, 0, 0, 0, .zero, [], [], []⟩

/-- Adds the summary of a batch. -/
def pushSummary (t : Tally) (s : BatchSummary) : Tally :=
  { t with
    totalRows := t.totalRows + s.totalRows
    validRows := t.validRows + s.validRows
    invalidRows := t.invalidRows + s.invalidRows
    counts := t.counts + s.counts
    batches := t.batches ++ [s] }

/-- Adds the findings of rows. -/
def pushOutcomes (t : Tally) (outcomes : List RowOutcome) : Tally :=
  { t with
    fieldErrors := t.fieldErrors ++ outcomes.flatMap (·.fieldErrors)
    violations := t.violations ++ outcomes.flatMap (·.violations) }

/-- Adds a batch. -/
def push (t : Tally) (s : BatchSummary) (outcomes : List RowOutcome) : Tally :=
  (t.pushSummary s).pushOutcomes outcomes

/-- Closes the tally. -/
def close (t : Tally) (status : FileStatus) (fileError : Option String) : Response :=
  let failed := status == .failed
  let batches := t.batches.mergeSort fun a b => a.index ≤ b.index
  { form := Response.currentForm
    source := t.about.source
    recordType := t.about.recordType
    status
    totalRows := t.totalRows
    validRows := if failed then 0 else t.validRows
    invalidRows := if failed then t.totalRows else t.invalidRows
    counts := t.counts
    fieldErrors := t.fieldErrors.mergeSort fun a b => a.row ≤ b.row
    violations := t.violations.mergeSort fun a b => a.row ≤ b.row
    warnings := t.about.warnings
    batches := if failed then batches.map (·.invalidated) else batches
    fileError
    fingerprint := t.about.fingerprint }

end Tally

/-- The response to summaries and outcomes that are at hand all at once. -/
def Response.of (about : FileMeta) (summaries : List BatchSummary) (outcomes : List RowOutcome)
    (status : FileStatus) (fileError : Option String) : Response :=
  ((summaries.foldl Tally.pushSummary (.start about)).pushOutcomes outcomes).close status fileError

end RecordGate
