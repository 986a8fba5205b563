import RecordGate.Batch.Outcome

/-!
# Responses

The response to a file: how it ended, how many of its rows are valid, and every finding about them.

Main definitions: `FileStatus`, `Response`.
-/

namespace RecordGate

/-- How a file ended. -/
inductive FileStatus where
  | completed
  | failed
  | cancelled
deriving DecidableEq

namespace FileStatus

def name : FileStatus → String
  | .completed => "completed"
  | .failed => "failed"
  | .cancelled => "cancelled"

def all : List FileStatus := [completed, failed, cancelled]

def ofName? (s : String) : Option FileStatus := all.find? (·.name == s)

end FileStatus

/-- The response to a file. -/
structure Response where
  /-- The version of the form. -/
  form : String
  source : String
  /-- None when the source belongs to no known record type. -/
  recordType : Option RecordType
  status : FileStatus
  totalRows : Nat
  validRows : Nat
  invalidRows : Nat
  counts : SeverityCounts
  fieldErrors : List FieldError
  violations : List Violation
  warnings : List RuleWarning
  batches : List BatchSummary
  fileError : Option String
  fingerprint : String
deriving DecidableEq

/-- The version of the form of responses. -/
def Response.currentForm : String := "0.1"

/-- Only a file that was read to its end succeeded. -/
def Response.succeeded (r : Response) : Bool := r.status == .completed

end RecordGate
