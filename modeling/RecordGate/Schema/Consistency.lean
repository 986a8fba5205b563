import RecordGate.Pattern.Engine
import RecordGate.Schema.Basic

/-!
# Consistency of schemas

A schema is consistent when its field names are distinct, its aliases point at its fields, every
constraint suits the type of its field, the engine can read every pattern, and no field has a minimum above its
maximum.

Main definitions: `Schema.Fault` with its message, `Schema.consistent?`.
-/

namespace RecordGate.Schema

/-- What makes a schema inconsistent. -/
inductive Fault where
  | duplicateField (owner : RecordType) (field : String)
  | danglingAlias (owner : RecordType) (column target : String)
  | unsuitable (owner : RecordType) (condition : String) (type : FieldType) (field : String)
  | badPattern (owner : RecordType) (field : String) (reason : String)
  | invertedBounds (owner : RecordType) (least most : Decimal) (field : String)
deriving DecidableEq

/-- The text of a fault. -/
def Fault.message : Fault → String
  | .duplicateField owner field => s!"duplicate field name: {owner.key}.{field}"
  | .danglingAlias owner column target => s!"alias '{column}' points at unknown field: {owner.key}.{target}"
  | .unsuitable owner condition type field =>
    s!"constraint '{condition}' cannot apply to {type.name} field: {owner.key}.{field}"
  | .badPattern owner field reason => s!"invalid pattern for {owner.key}.{field}: {reason}"
  | .invertedBounds owner least most field => s!"minimum {least} exceeds maximum {most}: {owner.key}.{field}"

/-- The first name that an earlier one repeats. -/
def firstRepeated : (seen : List String) → List String → Option String
  | _, [] => none
  | seen, n :: rest => if seen.contains n then some n else firstRepeated (n :: seen) rest

/-- Whether a constraint can stand on a field. -/
def constraintFault? (engine : Pattern.Engine) (owner : RecordType) (f : Field) (c : Constraint) : Option Fault :=
  if !c.condition.appliesTo f.type then some (.unsuitable owner c.condition.name f.type f.name)
  else
    match c.condition with
    | .pattern regex =>
      match engine.read regex with
      | .ok _ => none
      | .error reason => some (.badPattern owner f.name reason)
    | _ => none

/-- The last minimum of a list of constraints. -/
def lastMin? (cs : List Constraint) : Option Decimal :=
  cs.reverse.findSome? fun c => match c.condition with
    | .min bound _ => some bound
    | _ => none

/-- The last maximum of a list of constraints. -/
def lastMax? (cs : List Constraint) : Option Decimal :=
  cs.reverse.findSome? fun c => match c.condition with
    | .max bound _ => some bound
    | _ => none

/-- The first fault of a field. Of several minima or maxima the last counts. -/
def fieldFault? (engine : Pattern.Engine) (owner : RecordType) (f : Field) : Option Fault :=
  match f.constraints.findSome? (constraintFault? engine owner f) with
  | some fault => some fault
  | none =>
    match lastMin? f.constraints, lastMax? f.constraints with
    | some least, some most => if most.lt least then some (.invertedBounds owner least most f.name) else none
    | _, _ => none

/-- The first fault of a schema: names first, then aliases, then the fields one by one. -/
def fault? (s : Schema) (engine : Pattern.Engine) : Option Fault :=
  match firstRepeated [] s.fieldNames with
  | some n => some (.duplicateField s.recordType n)
  | none =>
    match s.aliases.entries.find? fun e => !s.fieldNames.contains e.2 with
    | some e => some (.danglingAlias s.recordType e.1 e.2)
    | none => s.fields.findSome? (fieldFault? engine s.recordType)

/-- Accepts a consistent schema. -/
def consistent? (s : Schema) (engine : Pattern.Engine) : Except Fault Unit :=
  match s.fault? engine with
  | some fault => .error fault
  | none => .ok ()

end RecordGate.Schema
