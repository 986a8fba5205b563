import RecordGate.Response.Basic
import RecordGate.Schema.Json

/-!
# Responses as JSON

The document form of responses, both ways, with the members in the order of declaration. Rule warnings
and a file error stand only where there are any.

Main definitions: `Response.toJson`, `Response.ofJson?`.
-/

namespace RecordGate

namespace FieldError

def toJson (e : FieldError) : Json :=
  .obj [("row_index", .ofNat e.row), ("field", .str e.field), ("code", .str e.code.name),
    ("severity", .str e.severity.name), ("message", .str e.message)]

def ofJson? (j : Json) : Option FieldError := do
  let j ← j.asObject? ["row_index", "field", "code", "severity", "message"]
  let row ← j.required? "row_index" Json.nat?
  let field ← j.required? "field" Json.string?
  let code ← j.required? "code" (Json.variant? FieldErrorCode.ofName?)
  let severity ← j.required? "severity" Severity.ofJson?
  let message ← j.required? "message" Json.string?
  return ⟨row, field, code, severity, message⟩

end FieldError

namespace Violation

def toJson (v : Violation) : Json :=
  .obj [("row_index", .ofNat v.row), ("rule_id", .str v.ruleId), ("severity", .str v.severity.name),
    ("kind", .str v.kind.name), ("message", .str v.message)]

def ofJson? (j : Json) : Option Violation := do
  let j ← j.asObject? ["row_index", "rule_id", "severity", "kind", "message"]
  let row ← j.required? "row_index" Json.nat?
  let ruleId ← j.required? "rule_id" Json.string?
  let severity ← j.required? "severity" Severity.ofJson?
  let kind ← j.required? "kind" (Json.variant? ViolationKind.ofName?)
  let message ← j.required? "message" Json.string?
  return ⟨row, ruleId, severity, kind, message⟩

end Violation

namespace RuleWarning

def toJson (w : RuleWarning) : Json :=
  .obj [("rule_id", .str w.ruleId), ("code", .str w.code), ("message", .str w.message)]

def ofJson? (j : Json) : Option RuleWarning := do
  let j ← j.asObject? ["rule_id", "code", "message"]
  let ruleId ← j.required? "rule_id" Json.string?
  let code ← j.required? "code" Json.string?
  let message ← j.required? "message" Json.string?
  return ⟨ruleId, code, message⟩

end RuleWarning

namespace SeverityCounts

def toJson (c : SeverityCounts) : Json :=
  .obj [("critical", .ofNat c.critical), ("warning", .ofNat c.warning), ("info", .ofNat c.info)]

def ofJson? (j : Json) : Option SeverityCounts := do
  let j ← j.asObject? ["critical", "warning", "info"]
  let critical ← j.required? "critical" Json.nat?
  let warning ← j.required? "warning" Json.nat?
  let info ← j.required? "info" Json.nat?
  return ⟨critical, warning, info⟩

end SeverityCounts

namespace BatchSummary

def toJson (s : BatchSummary) : Json :=
  .obj [("batch_index", .ofNat s.index), ("first_row", .ofNat s.firstRow), ("last_row", .ofNat s.lastRow),
    ("total_rows", .ofNat s.totalRows), ("valid_rows", .ofNat s.validRows),
    ("invalid_rows", .ofNat s.invalidRows), ("counts", s.counts.toJson)]

def ofJson? (j : Json) : Option BatchSummary := do
  let j ← j.asObject? ["batch_index", "first_row", "last_row", "total_rows", "valid_rows", "invalid_rows", "counts"]
  let index ← j.required? "batch_index" Json.nat?
  let firstRow ← j.required? "first_row" Json.nat?
  let lastRow ← j.required? "last_row" Json.nat?
  let totalRows ← j.required? "total_rows" Json.nat?
  let validRows ← j.required? "valid_rows" Json.nat?
  let invalidRows ← j.required? "invalid_rows" Json.nat?
  let counts ← j.required? "counts" SeverityCounts.ofJson?
  return ⟨index, firstRow, lastRow, totalRows, validRows, invalidRows, counts⟩

end BatchSummary

namespace Response

/-- The members in the order of declaration. -/
def memberNames : List String :=
  ["response_version", "source", "record_type", "status", "total_rows", "valid_rows", "invalid_rows",
    "critical_errors", "warnings", "info_messages", "field_errors", "business_violations", "rule_warnings",
    "batches", "file_error", "rule_set_fingerprint"]

def toJson (r : Response) : Json :=
  .obj ([("response_version", .str r.form), ("source", .str r.source),
    ("record_type", .ofOption (fun t => .str t.key) r.recordType), ("status", .str r.status.name),
    ("total_rows", .ofNat r.totalRows), ("valid_rows", .ofNat r.validRows), ("invalid_rows", .ofNat r.invalidRows),
    ("critical_errors", .ofNat r.counts.critical), ("warnings", .ofNat r.counts.warning),
    ("info_messages", .ofNat r.counts.info), ("field_errors", .arr (r.fieldErrors.map FieldError.toJson)),
    ("business_violations", .arr (r.violations.map Violation.toJson))] ++
    (if r.warnings.isEmpty then [] else [("rule_warnings", .arr (r.warnings.map RuleWarning.toJson))]) ++
    [("batches", .arr (r.batches.map BatchSummary.toJson))] ++
    Json.member? "file_error" (r.fileError.map .str) ++
    [("rule_set_fingerprint", .str r.fingerprint)])

def ofJson? (j : Json) : Option Response := do
  let j ← j.asObject? memberNames
  let form ← j.required? "response_version" Json.string?
  let source ← j.required? "source" Json.string?
  let recordType ← j.optional? "record_type" RecordType.ofJson?
  let status ← j.required? "status" (Json.variant? FileStatus.ofName?)
  let totalRows ← j.required? "total_rows" Json.nat?
  let validRows ← j.required? "valid_rows" Json.nat?
  let invalidRows ← j.required? "invalid_rows" Json.nat?
  let critical ← j.required? "critical_errors" Json.nat?
  let warning ← j.required? "warnings" Json.nat?
  let info ← j.required? "info_messages" Json.nat?
  let fieldErrors ← j.required? "field_errors" (Json.list? FieldError.ofJson?)
  let violations ← j.required? "business_violations" (Json.list? Violation.ofJson?)
  let warnings ← j.defaulted? "rule_warnings" [] (Json.list? RuleWarning.ofJson?)
  let batches ← j.required? "batches" (Json.list? BatchSummary.ofJson?)
  let fileError ← j.optional? "file_error" Json.string?
  let fingerprint ← j.required? "rule_set_fingerprint" Json.string?
  return {
    form, source, recordType, status, totalRows, validRows, invalidRows, counts := ⟨critical, warning, info⟩,
    fieldErrors, violations, warnings, batches, fileError, fingerprint }

end Response

end RecordGate
