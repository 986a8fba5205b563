import RecordGate.Calendar.Reader
import RecordGate.Decimal.Reader

/-!
# Cells and values

A file delivers cells: what a format can tell apart before anything is known about the field. A schema
turns a cell into a value of the field's type.

Main definitions: `Severity`, `FieldType`, `Cell`, `Value`, `Value.text`.
-/

namespace RecordGate

/-- How much a finding weighs. The order of the constructors is the order of evaluation. -/
inductive Severity where
  | critical
  | warning
  | info
deriving DecidableEq

namespace Severity

def name : Severity → String
  | .critical => "CRITICAL"
  | .warning => "WARNING"
  | .info => "INFO"

def ofName? (s : String) : Option Severity :=
  [critical, warning, info].find? (·.name == s)

/-- Critical first. -/
def rank : Severity → Nat
  | .critical => 0
  | .warning => 1
  | .info => 2

/-- Only a critical finding makes a row invalid. -/
def invalidates (s : Severity) : Bool := s == .critical

end Severity

/-- The type that a schema declares for a field. -/
inductive FieldType where
  | text
  | integer
  | decimal
  | boolean
  | date
  | timestamp
deriving DecidableEq

namespace FieldType

def name : FieldType → String
  | .text => "text"
  | .integer => "integer"
  | .decimal => "decimal"
  | .boolean => "boolean"
  | .date => "date"
  | .timestamp => "timestamp"

def ofName? (s : String) : Option FieldType :=
  [text, integer, decimal, boolean, date, timestamp].find? (·.name == s)

def isNumeric : FieldType → Bool
  | .integer | .decimal => true
  | _ => false

def isTemporal : FieldType → Bool
  | .date | .timestamp => true
  | _ => false

end FieldType

/-- A cell of a row as its format delivers it. -/
inductive Cell where
  | null
  | bool (b : Bool)
  | number (d : Decimal)
  | text (s : String)
deriving DecidableEq

namespace Cell

/-- A cell without content: null, or text of blanks. -/
def isEmpty : Cell → Bool
  | .null => true
  | .text s => Text.isBlankText s
  | _ => false

/-- The cell as it is quoted in a message. -/
def display : Cell → String
  | .null => "null"
  | .bool b => if b then "true" else "false"
  | .number d => toString d
  | .text s => s

end Cell

/-- A value of a field. -/
inductive Value where
  | null
  | bool (b : Bool)
  | number (d : Decimal)
  | text (s : String)
  | date (d : Date)
  | timestamp (t : Timestamp)
deriving DecidableEq

namespace Value

instance : Inhabited Value := ⟨.null⟩

/-- What sort of thing a value is. -/
inductive Kind where
  | null
  | boolean
  | number
  | text
  | date
  | timestamp
deriving DecidableEq

def Kind.name : Kind → String
  | .null => "null"
  | .boolean => "boolean"
  | .number => "number"
  | .text => "text"
  | .date => "date"
  | .timestamp => "timestamp"

def kind : Value → Kind
  | .null => .null
  | .bool _ => .boolean
  | .number _ => .number
  | .text _ => .text
  | .date _ => .date
  | .timestamp _ => .timestamp

def isNull (v : Value) : Bool := v == .null

def decimal? : Value → Option Decimal
  | .number d => some d
  | _ => none

def text? : Value → Option String
  | .text s => some s
  | _ => none

def bool? : Value → Option Bool
  | .bool b => some b
  | _ => none

/-- The day of a date or timestamp. -/
def date? : Value → Option Date
  | .date d => some d
  | .timestamp t => some t.date
  | _ => none

/-- The value as it is written to a table and into keys; null is empty. -/
def written : Value → String
  | .null => ""
  | .bool b => if b then "true" else "false"
  | .number d => toString d
  | .text s => s
  | .date d => toString d
  | .timestamp t => toString t

/-- The value as it stands in a message; null has a name. -/
def display : Value → String
  | .null => "null"
  | v => v.written

end Value

end RecordGate
