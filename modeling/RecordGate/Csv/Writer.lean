import RecordGate.Csv.Reader

/-!
# Writing comma-separated records

A field is quoted only where it has to be: when it holds a comma, a quote or a line end. A record ends
with a line feed. A record that would be an empty line is written as a pair of quotes, so that it is
read as a record.

Main definitions: `Csv.writtenRecord`.
-/

namespace RecordGate.Csv

/-- Whether a field cannot stand without quotes. -/
def needsQuotes (field : Bytes) : Bool := field.any fun b => b == comma || b == quote || isLineEnd b

/-- Writes every quote twice. -/
def doubled : Bytes → Bytes
  | [] => []
  | b :: rest => if b == quote then quote :: quote :: doubled rest else b :: doubled rest

/-- A field as it stands in a record. -/
def writtenField (field : Bytes) : Bytes :=
  if needsQuotes field then quote :: doubled field ++ [quote] else field

/-- Fields with commas between. -/
def joined : List Bytes → Bytes
  | [] => []
  | [field] => writtenField field
  | field :: rest => writtenField field ++ comma :: joined rest

/-- A record with its line feed. -/
def writtenRecord (fields : List Bytes) : Bytes :=
  let line := joined fields
  (if line.isEmpty then [quote, quote] else line) ++ [lineFeed]

/-- Several records. -/
def written (records : List (List Bytes)) : Bytes := records.flatMap writtenRecord

end RecordGate.Csv
