import RecordGate.Value
import RecordGate.Text.Lowercase

/-!
# Coercion

How a cell becomes a value of a declared type. Text is read by the rules of the type with blanks around
it; numbers become text by their digits; a number stands for a truth value only as zero or one.
-/

namespace RecordGate

/-- A cell cannot be read as a value of the type. -/
structure Mismatch where
  type : FieldType
  cell : Cell
deriving DecidableEq

def Mismatch.message (m : Mismatch) : String := s!"invalid {m.type.name} '{m.cell.display}'"

/-- The truth value of a word, in any case. -/
def truth? (text : String) : Option Bool :=
  let word := Text.lowercase (Text.trim text)
  if ["true", "t", "1", "yes", "y"].contains word then some true
  else if ["false", "f", "0", "no", "n"].contains word then some false
  else none

/-- A number without a fraction, as an integer. -/
def integer? (d : Decimal) : Option Value :=
  if d.isIntegral then some (.number d.trunc) else none

/-- The value of the declared type that a cell stands for. -/
def coerce? (type : FieldType) (cell : Cell) : Option Value :=
  match type, cell with
  | _, .null => some .null
  | .text, .text s => some (.text (Text.trim s))
  | .text, .number d => some (.text (toString d))
  | .text, .bool b => some (.text (if b then "true" else "false"))
  | .integer, .number d => integer? d
  | .integer, .text s => (Decimal.parse? s).bind integer?
  | .decimal, .number d => some (.number d)
  | .decimal, .text s => (Decimal.parse? s).map .number
  | .boolean, .bool b => some (.bool b)
  | .boolean, .number d =>
    if d.sameNumber .one then some (.bool true) else if d.isZero then some (.bool false) else none
  | .boolean, .text s => (truth? s).map .bool
  | .date, .text s => (Date.parse? s).map .date
  | .timestamp, .text s => (Timestamp.parse? s).map .timestamp
  | _, _ => none

/-- Reads a cell as a value of the declared type. -/
def coerce (type : FieldType) (cell : Cell) : Except Mismatch Value :=
  match coerce? type cell with
  | some v => .ok v
  | none => .error ⟨type, cell⟩

end RecordGate
