import RecordGate.Record
import RecordGate.RecordType
import RecordGate.Value

/-!
# Schemas

A schema declares the fields of a record type: their types, whether they are required, and the
constraints on their values. Aliases name columns of a source that stand for a field.

Main definitions: `Schema`, `Schema.field?` (by name, whatever its case), `Schema.canonical` (through
the aliases).
-/

namespace RecordGate

/-- What a constraint asks of a value. -/
inductive Condition where
  | maxLength (most : Nat)
  | minLength (least : Nat)
  | min (bound : Decimal) (exclusive : Bool)
  | max (bound : Decimal) (exclusive : Bool)
  | oneOf (values : List String)
  | pattern (regex : String)
  /-- Not later than the processing date. -/
  | notInFuture
  | notBefore (bound : Date)
deriving DecidableEq

namespace Condition

def name : Condition → String
  | .maxLength _ => "max_length"
  | .minLength _ => "min_length"
  | .min _ _ => "min"
  | .max _ _ => "max"
  | .oneOf _ => "one_of"
  | .pattern _ => "pattern"
  | .notInFuture => "not_in_future"
  | .notBefore _ => "not_before"

/-- Whether fields of the type can be held to the condition. -/
def appliesTo (c : Condition) (t : FieldType) : Bool :=
  match c with
  | .maxLength _ | .minLength _ | .oneOf _ | .pattern _ => t == .text
  | .min _ _ | .max _ _ => t.isNumeric
  | .notInFuture | .notBefore _ => t.isTemporal

end Condition

/-- A condition with the severity of its failure, and the text that replaces the usual message. -/
structure Constraint where
  condition : Condition
  severity : Severity
  message : Option String
deriving DecidableEq

/-- A declared field. -/
structure Field where
  name : String
  type : FieldType
  required : Bool
  constraints : List Constraint
deriving DecidableEq

/-- The fields of a record type, in the order of checking, and the aliases of columns. -/
structure Schema where
  recordType : RecordType
  fields : List Field
  aliases : Record String
deriving DecidableEq

namespace Schema

/-- The field of a name, whatever the case in which it is written. -/
def field? (s : Schema) (name : String) : Option Field :=
  let name := Text.lowercase name
  s.fields.find? (·.name == name)

def hasField (s : Schema) (name : String) : Bool := (s.field? name).isSome

/-- The names of the fields, as declared. -/
def fieldNames (s : Schema) : List String := s.fields.map (·.name)

/-- The name of a column, trimmed and in small letters. -/
def columnName (column : String) : String := Text.lowercase (Text.trim column)

/-- The field name that a column stands for: the target of its alias, or its own name. -/
def canonical (s : Schema) (column : String) : String :=
  let name := columnName column
  (s.aliases.get? name).getD name

def table (s : Schema) : String := s.recordType.table

end Schema

end RecordGate
