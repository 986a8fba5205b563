import RecordGate.Calendar.Timestamp
import RecordGate.Json.Structure
import RecordGate.Response.Json

/-!
# Audit records

One record is kept of every file. It holds the counts of the response, and a digest of its findings as
text: how many there are of each code and of each rule.

Main definitions: `ErrorSummary.of`, `ErrorSummary.ofText`, `AuditRecord.of`.
-/

namespace RecordGate

/-- A digest of the findings about a file. -/
structure ErrorSummary where
  counts : SeverityCounts
  /-- Field errors by code. -/
  fieldErrors : Record Nat
  /-- Violations by rule. -/
  violations : Record Nat
  fileError : Option String
deriving DecidableEq

/-- How often each name stands in a list. -/
def Record.tally (names : List String) : Record Nat :=
  names.foldl (fun r n => r.set n ((r.get? n).getD 0 + 1)) .empty

namespace ErrorSummary

/-- The digest of a response. -/
def of (r : Response) : ErrorSummary where
  counts := r.counts
  fieldErrors := .tally (r.fieldErrors.map (·.code.name))
  violations := .tally (r.violations.map (·.ruleId))
  fileError := r.fileError

private def counted (r : Record Nat) : Json := .obj (r.entries.map fun e => (e.1, .ofNat e.2))

/-- The document form, in the order of declaration. -/
def toJson (s : ErrorSummary) : Json :=
  .obj ([("critical_errors", .ofNat s.counts.critical), ("warnings", .ofNat s.counts.warning),
    ("info_messages", .ofNat s.counts.info), ("field_errors", counted s.fieldErrors),
    ("business_violations", counted s.violations)] ++ Json.member? "file_error" (s.fileError.map .str))

/-- The text that is kept. -/
def text (s : ErrorSummary) : String := s.toJson.compact

private def readCounted : Json → Except Json.Refusal (Record Nat)
  | .obj members => do return Record.ofList (← members.mapM fun m => do return (m.1, ← Json.readNat m.2))
  | j => .error (.wrongType j "a map")

/-- The digest of the members of its document form. -/
def ofMembers (m : Json.Members) : Except Json.Refusal ErrorSummary := do
  let critical ← m.required "critical_errors" Json.readNat
  let warning ← m.required "warnings" Json.readNat
  let info ← m.required "info_messages" Json.readNat
  let fieldErrors ← m.required "field_errors" readCounted
  let violations ← m.required "business_violations" readCounted
  let fileError ← m.defaulted "file_error" none (Json.readOption Json.readString)
  return ⟨⟨critical, warning, info⟩, fieldErrors, violations, fileError⟩

/-- Reads the text of a digest. -/
def ofText (text : String) : Except Json.ReadError ErrorSummary :=
  Json.readStructure "ErrorSummary"
    [("critical_errors", .natural), ("warnings", .natural), ("info_messages", .natural),
      ("field_errors", .naturals), ("business_violations", .naturals), ("file_error", .optionalText)]
    ofMembers (Text.encode text)

end ErrorSummary

/-- What is kept of a file. -/
structure AuditRecord where
  source : String
  /-- Empty when the record type is unknown. -/
  table : String
  recordType : Option RecordType
  status : FileStatus
  totalRows : Nat
  validRows : Nat
  invalidRows : Nat
  /-- The digest of the findings, as text. -/
  errors : String
  processedAt : String
deriving DecidableEq

namespace AuditRecord

/-- The record of a response at a moment of universal time. -/
def of (r : Response) (now : Timestamp) : AuditRecord where
  source := r.source
  table := (r.recordType.map RecordType.table).getD ""
  recordType := r.recordType
  status := r.status
  totalRows := r.totalRows
  validRows := r.validRows
  invalidRows := r.invalidRows
  errors := (ErrorSummary.of r).text
  processedAt := now.universalText

/-- The document form, in the order of declaration. -/
def toJson (a : AuditRecord) : Json :=
  .obj [("source_file", .str a.source), ("table_name", .str a.table),
    ("record_type", .ofOption (fun t => .str t.key) a.recordType), ("status", .str a.status.name),
    ("total_rows", .ofNat a.totalRows), ("valid_rows", .ofNat a.validRows), ("invalid_rows", .ofNat a.invalidRows),
    ("validation_errors", .str a.errors), ("processed_at", .str a.processedAt)]

end AuditRecord

end RecordGate
