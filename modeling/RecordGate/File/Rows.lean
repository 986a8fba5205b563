import RecordGate.File.Csv
import RecordGate.File.Format
import RecordGate.File.Json

/-!
# Reading files

Main definitions: `Format.rows`, the items of a file in each format.
-/

namespace RecordGate

/-- The items of a file. -/
def Format.rows : Format → Bytes → List RowItem
  | .csv, input => Csv.rows input
  | .json, input => JsonArray.rows input
  | .jsonLines, input => JsonLines.rows input

end RecordGate
