import RecordGate.Schema.Coerce
import RecordGate.Schema.Consistency

/-!
# Checking rows

A row is checked field by field in the order of declaration. Every declared field gets a value, null
where none can be had, and every failure is reported. Texts are matched by the engine that read the patterns.

Main definitions: `FieldError`, `Schema.resolve` (which cell belongs to which field), `Schema.check`.
-/

namespace RecordGate

/-- A row as its format delivers it. Rows are numbered from 1. -/
structure RawRow where
  index : Nat
  cells : Record Cell
deriving DecidableEq

/-- What a field error is about. -/
inductive FieldErrorCode where
  | required
  | typeMismatch
  | maxLength
  | minLength
  | belowMinimum
  | aboveMaximum
  | notAllowed
  | patternMismatch
  | inFuture
  | tooEarly
  /-- The row itself could not be read. -/
  | rowParse
deriving DecidableEq

namespace FieldErrorCode

def name : FieldErrorCode → String
  | .required => "required"
  | .typeMismatch => "type_mismatch"
  | .maxLength => "max_length"
  | .minLength => "min_length"
  | .belowMinimum => "below_minimum"
  | .aboveMaximum => "above_maximum"
  | .notAllowed => "not_allowed"
  | .patternMismatch => "pattern_mismatch"
  | .inFuture => "in_future"
  | .tooEarly => "too_early"
  | .rowParse => "row_parse"

def all : List FieldErrorCode :=
  [required, typeMismatch, maxLength, minLength, belowMinimum, aboveMaximum, notAllowed, patternMismatch,
    inFuture, tooEarly, rowParse]

def ofName? (s : String) : Option FieldErrorCode := all.find? (·.name == s)

end FieldErrorCode

/-- A failure of one field of one row. -/
structure FieldError where
  row : Nat
  field : String
  code : FieldErrorCode
  severity : Severity
  message : String
deriving DecidableEq

/-- The error of a row that could not be read. -/
def FieldError.unreadable (row : Nat) (message : String) : FieldError :=
  ⟨row, "*", .rowParse, .critical, message⟩

/-- The values of a row and the failures found on the way. -/
structure RowCheck where
  values : Record Value
  errors : List FieldError

/-- Whether some failure makes the row invalid. -/
def RowCheck.hasCritical (c : RowCheck) : Bool := c.errors.any (·.severity.invalidates)

namespace Condition

/-- The code of the error that a broken condition gives. -/
def errorCode : Condition → FieldErrorCode
  | .maxLength _ => .maxLength
  | .minLength _ => .minLength
  | .min _ _ => .belowMinimum
  | .max _ _ => .aboveMaximum
  | .oneOf _ => .notAllowed
  | .pattern _ => .patternMismatch
  | .notInFuture => .inFuture
  | .notBefore _ => .tooEarly

/-- Whether a value breaks a condition. A value that the condition is not about breaks nothing. -/
def brokenBy (c : Condition) (engine : Pattern.Engine) (asOf : Date) (v : Value) : Bool :=
  match c, v with
  | .maxLength most, .text s => s.length > most
  | .minLength least, .text s => s.length < least
  | .min bound exclusive, .number d => if exclusive then d.le bound else d.lt bound
  | .max bound exclusive, .number d => if exclusive then bound.le d else bound.lt d
  | .oneOf values, .text s => !values.contains s
  | .pattern regex, .text s => !engine.isMatch regex s
  | .notInFuture, v => v.date?.any (asOf.lt ·)
  | .notBefore bound, v => v.date?.any (·.lt bound)
  | _, _ => false

/-- What is said of a field that breaks a condition. -/
def complaint (field : String) : Condition → String
  | .maxLength most => s!"field '{field}' exceeds {most} characters"
  | .minLength least => s!"field '{field}' must be at least {least} characters"
  | .min bound exclusive =>
    s!"field '{field}' must be " ++ (if exclusive then "greater than " else "at least ") ++ toString bound
  | .max bound exclusive =>
    s!"field '{field}' must be " ++ (if exclusive then "less than " else "at most ") ++ toString bound
  | .oneOf values => s!"field '{field}' must be one of: " ++ ", ".intercalate values
  | .pattern regex => s!"field '{field}' does not match pattern {regex}"
  | .notInFuture => s!"field '{field}' cannot be in the future"
  | .notBefore bound => s!"field '{field}' cannot be before {bound}"

end Condition

/-- The error of a constraint that a value breaks. -/
def Constraint.error? (c : Constraint) (engine : Pattern.Engine) (row : Nat) (field : String) (asOf : Date)
    (v : Value) : Option FieldError :=
  if c.condition.brokenBy engine asOf v then
    some ⟨row, field, c.condition.errorCode, c.severity, c.message.getD (c.condition.complaint field)⟩
  else none

/-- The value of a field and its errors, given the cell found for it. -/
def Field.check (f : Field) (engine : Pattern.Engine) (row : Nat) (asOf : Date) (cell : Option Cell) :
    Value × List FieldError :=
  match cell.filter (!·.isEmpty) with
  | none =>
    (.null,
      if f.required then [⟨row, f.name, .required, .critical, s!"field '{f.name}' is required"⟩] else [])
  | some cell =>
    match coerce f.type cell with
    | .ok v => (v, f.constraints.filterMap (·.error? engine row f.name asOf v))
    | .error m => (.null, [⟨row, f.name, .typeMismatch, .critical, m.message⟩])

namespace Schema

/-- Cells found for fields, and the fields found under their own names. -/
structure Resolved where
  cells : Record Cell
  direct : List String

/--
Takes one column into account. A column under a field's own name takes the place of any other; an
aliased column only fills a gap.
-/
def resolveColumn (s : Schema) (r : Resolved) (column : String × Cell) : Resolved :=
  let name := columnName column.1
  let target := s.canonical name
  if target == name then ⟨r.cells.set target column.2, target :: r.direct⟩
  else if r.direct.contains target || (r.cells.get? target).isSome then r
  else { r with cells := r.cells.set target column.2 }

/-- The cells of a row by field name, from its columns in the order of their names. -/
def resolve (s : Schema) (row : RawRow) : Record Cell :=
  (row.cells.entries.foldl s.resolveColumn ⟨.empty, []⟩).cells

/-- Checks every declared field of a row. -/
def check (s : Schema) (engine : Pattern.Engine) (row : RawRow) (asOf : Date) : RowCheck :=
  let cells := s.resolve row
  s.fields.foldl (fun done f =>
    let (value, errors) := f.check engine row.index asOf (cells.get? f.name)
    ⟨done.values.set f.name value, done.errors ++ errors⟩) ⟨.empty, []⟩

/-- The errors of a single row; an inconsistent schema is an error of the row. -/
def checkOnce (s : Schema) (engine : Pattern.Engine) (row : RawRow) (asOf : Date) : List FieldError :=
  match s.consistent? engine with
  | .ok _ => (s.check engine row asOf).errors
  | .error fault => [⟨row.index, "*", .typeMismatch, .critical, "invalid schema: " ++ fault.message⟩]

end Schema

end RecordGate
