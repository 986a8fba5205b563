import RecordGate.Json.Decode
import RecordGate.Schema.Basic

/-!
# Schemas as JSON

The document form of a schema, both ways, with the members in the order of declaration. Decimals and
dates are strings; a bound may also be written as a number. What is empty or absent is not written.

Main definitions: `Schema.toJson`, `Schema.ofJson?`.
-/

namespace RecordGate

/-- A decimal from a string of either form, or from a number by its digits. -/
def Decimal.ofJson? : Json → Option Decimal
  | .str s => (Decimal.ofPlain? s.toList).or (Decimal.ofScientific? s.toList)
  | .num (.whole n) => Decimal.ofInt? n 0
  | .num (.float x) => Decimal.ofPlain? x.positionalChars
  | _ => none

/-- A date as documents write it: blanks may stand around each number. -/
def Date.ofDocument? (text : String) : Option Date := do
  let skip (cs : List Char) := cs.dropWhile Text.isBlank
  let (year, cs) ← Calendar.year? text.toList
  let cs ← Calendar.mark? '-' (skip cs)
  let (month, cs) ← Calendar.shortNumber? cs
  let cs ← Calendar.mark? '-' (skip cs)
  let (day, cs) ← Calendar.shortNumber? cs
  if (skip cs).isEmpty then Date.ofParts? year month day else none

def Date.ofJson? (j : Json) : Option Date := j.string?.bind Date.ofDocument?

def RecordType.ofJson? : Json → Option RecordType := Json.variant? RecordType.ofKey?

namespace Condition

/-- The members that describe a condition. -/
def toMembers (c : Condition) : List (String × Json) :=
  ("kind", .str c.name) :: match c with
    | .maxLength most => [("max", .ofNat most)]
    | .minLength least => [("min", .ofNat least)]
    | .min bound exclusive => [("value", .str (toString bound)), ("exclusive", .bool exclusive)]
    | .max bound exclusive => [("value", .str (toString bound)), ("exclusive", .bool exclusive)]
    | .oneOf values => [("values", .arr (values.map .str))]
    | .pattern regex => [("regex", .str regex)]
    | .notInFuture => []
    | .notBefore bound => [("date", .str (toString bound))]

def ofJson? (j : Json) : Option Condition := do
  let kind ← j.required? "kind" Json.string?
  if kind == "max_length" then return .maxLength (← j.required? "max" Json.nat?)
  else if kind == "min_length" then return .minLength (← j.required? "min" Json.nat?)
  else if kind == "min" then
    let bound ← j.required? "value" Decimal.ofJson?
    return .min bound (← j.defaulted? "exclusive" false Json.bool?)
  else if kind == "max" then
    let bound ← j.required? "value" Decimal.ofJson?
    return .max bound (← j.defaulted? "exclusive" false Json.bool?)
  else if kind == "one_of" then return .oneOf (← j.required? "values" (Json.list? Json.string?))
  else if kind == "pattern" then return .pattern (← j.required? "regex" Json.string?)
  else if kind == "not_in_future" then return .notInFuture
  else if kind == "not_before" then return .notBefore (← j.required? "date" Date.ofJson?)
  else none

end Condition

def Severity.ofJson? : Json → Option Severity := Json.variant? Severity.ofName?

namespace Constraint

def toJson (c : Constraint) : Json :=
  .obj (c.condition.toMembers ++ ("severity", .str c.severity.name) ::
    Json.member? "message" (c.message.map .str))

def ofJson? (j : Json) : Option Constraint := do
  let condition ← Condition.ofJson? j
  let severity ← j.defaulted? "severity" .critical Severity.ofJson?
  let message ← j.optional? "message" Json.string?
  return ⟨condition, severity, message⟩

end Constraint

namespace Field

def toJson (f : Field) : Json :=
  .obj ([("name", .str f.name), ("field_type", .str f.type.name), ("required", .bool f.required)] ++
    (if f.constraints.isEmpty then [] else [("constraints", .arr (f.constraints.map Constraint.toJson))]))

def ofJson? (j : Json) : Option Field := do
  let j ← j.asObject? ["name", "field_type", "required", "constraints"]
  let name ← j.required? "name" Json.string?
  let type ← j.required? "field_type" (Json.variant? FieldType.ofName?)
  let required ← j.required? "required" Json.bool?
  let constraints ← j.defaulted? "constraints" [] (Json.list? Constraint.ofJson?)
  return ⟨name, type, required, constraints⟩

end Field

namespace Schema

def toJson (s : Schema) : Json :=
  .obj ([("record_type", .str s.recordType.key), ("fields", .arr (s.fields.map Field.toJson))] ++
    (if s.aliases.isEmpty then []
      else [("aliases", .obj (s.aliases.entries.map fun e => (e.1, .str e.2)))]))

def ofJson? (j : Json) : Option Schema := do
  let j ← j.asObject? ["record_type", "fields", "aliases"]
  let recordType ← j.required? "record_type" RecordType.ofJson?
  let fields ← j.required? "fields" (Json.list? Field.ofJson?)
  let aliases ← j.defaulted? "aliases" .empty (Json.record? Json.string?)
  return ⟨recordType, fields, aliases⟩

end Schema

end RecordGate
