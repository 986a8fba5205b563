import RecordGate.Response.Audit

/-!
# Reports

A report shows a response as a Markdown document for people: the counts, the batches, the first
findings, and what to do next.

Main definitions: `Response.report`.
-/

namespace RecordGate.Response

/-- A heading, lines under it, and an empty line. -/
def block (heading : String) (lines : List String) : List String := ("## " ++ heading) :: lines ++ [""]

/-- A block that is left out when it has no lines of its own. -/
def blockUnless (isEmpty : Bool) (heading : String) (lines : List String) : List String :=
  if isEmpty then [] else block heading lines

/-- A row of a table. -/
def tableLine (cells : List String) : String := "| " ++ " | ".intercalate cells ++ " |"

/-- The head of a table. -/
def tableHead (names : List String) : List String := [tableLine names, tableLine (names.map fun _ => "---")]

def batchLine (b : BatchSummary) : String :=
  tableLine [toString b.index, s!"{b.firstRow}-{b.lastRow}", toString b.validRows, toString b.invalidRows]

def warningLine (w : RuleWarning) : String := s!"- {w.ruleId} ({w.code}): {w.message}"

def errorLine (e : FieldError) : String :=
  s!"- row {e.row} {e.field} [{e.severity.name}] {e.code.name}: {e.message}"

def violationLine (v : Violation) : String := s!"- row {v.row} {v.ruleId} [{v.severity.name}]: {v.message}"

/-- The rule that is broken most often, with its number; of several the first by name. -/
def mostBroken? (r : Response) : Option (String × Nat) :=
  (Record.tally (r.violations.map (·.ruleId))).entries.foldl (fun best e =>
    match best with
    | some b => if b.2 < e.2 then some e else best
    | none => some e) none

/-- What to do next. -/
def recommendations (r : Response) : List String :=
  (match r.status with
    | .failed => ["- fix the source container and resubmit the file."]
    | .cancelled => ["- processing was cancelled; resubmit to validate remaining rows."]
    | .completed => []) ++
  (if r.warnings.isEmpty then [] else ["- repair or deactivate rules that failed to compile."]) ++
  (match r.mostBroken? with
    | some (ruleId, count) => [s!"- most frequent rule violation: {ruleId} ({count} row(s))."]
    | none => []) ++
  (if r.invalidRows == 0 && r.fileError.isNone then
    ["- no invalid rows detected; compare counts across runs for drift."]
  else [])

/-- The record type as the report names it. -/
def typeName (r : Response) : String := (r.recordType.map RecordType.key).getD "unknown"

/-- The report, with at most the given number of examples of each sort. -/
def report (r : Response) (maxExamples : Nat) : String :=
  "\n".intercalate <|
    ["# Intake Validation Report", ""] ++
    block "File summary" (
      [s!"- source: {r.source}", s!"- record_type: {r.typeName}",
        s!"- status: {r.status.name}", s!"- rule_set_fingerprint: {r.fingerprint}"] ++
      (r.fileError.map fun e => s!"- file_error: {e}").toList) ++
    block "Row counts" (tableHead ["total", "valid", "invalid", "critical", "warning", "info"] ++
      [tableLine ([r.totalRows, r.validRows, r.invalidRows, r.counts.critical, r.counts.warning,
        r.counts.info].map toString)]) ++
    blockUnless r.batches.isEmpty "Batches"
      (tableHead ["batch", "rows", "valid", "invalid"] ++ r.batches.map batchLine) ++
    blockUnless r.warnings.isEmpty "Skipped rules" (r.warnings.map warningLine) ++
    blockUnless r.fieldErrors.isEmpty "Top field errors" ((r.fieldErrors.take maxExamples).map errorLine) ++
    blockUnless r.violations.isEmpty "Top rule violations" ((r.violations.take maxExamples).map violationLine) ++
    ["## Recommendations"] ++ r.recommendations

end RecordGate.Response
