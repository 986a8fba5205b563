import RecordGate.Csv.Reader
import RecordGate.File.Item

/-!
# Rows of CSV files

The first record names the columns; every other record is a row. A row that has another number of
fields than the header, or a field that is not UTF-8, is an error of that row. A header that is not
UTF-8 is an error of the file.

Main definitions: `Csv.rows`.
-/

namespace RecordGate.Csv

/-- The mark of UTF-8 that may stand at the front of a file. -/
def byteOrderMark : Bytes := [0xEF, 0xBB, 0xBF]

def dropByteOrderMark (input : Bytes) : Bytes :=
  if byteOrderMark.isPrefixOf input then input.drop byteOrderMark.length else input

/-- The first field that is not UTF-8, and the length of its valid beginning. -/
structure Utf8Fault where
  field : Nat
  validBytes : Nat
deriving DecidableEq

/-- The texts of fields that are numbered from the given number on. -/
def textsFrom : (first : Nat) → List Bytes → Except Utf8Fault (List String)
  | _, [] => .ok []
  | first, field :: rest =>
    match Text.decode field with
    | .error valid => .error ⟨first, valid⟩
    | .ok text => (textsFrom (first + 1) rest).map (text :: ·)

def texts (fields : List Bytes) : Except Utf8Fault (List String) := textsFrom 0 fields

/-- A place in the input: lines count from 1, bytes from 0. -/
structure Position where
  line : Nat
  byte : Nat
deriving DecidableEq

def Position.start : Position := ⟨1, 0⟩

/-- The place at which only `left` is left of the input. -/
def Position.before (input left : Bytes) : Position :=
  let consumed := input.take (input.length - left.length)
  ⟨1 + consumed.count lineFeed, consumed.length⟩

/-- What is said of a record that is not UTF-8. The header is record 0. -/
def Utf8Fault.message (fault : Utf8Fault) (record : Nat) (at_ : Position) : String :=
  s!"CSV parse error: record {record} (line {at_.line}, field: {fault.field}, byte: {at_.byte}): " ++
    s!"invalid utf-8: invalid UTF-8 in field {fault.field} near byte index {fault.validBytes}"

/-- The name of a column: byte order marks and blanks around it do not count. -/
def headerName (field : String) : String :=
  Text.trim (String.ofList (field.toList.dropWhile (· == '\uFEFF')))

/-- The cells of a row, or what is wrong with it. -/
def cells (input : Bytes) (names : List String) (index : Nat) (record : Located) :
    Except String (Record Cell) :=
  match texts record.fields with
  | .error fault => .error (fault.message index (.before input record.start))
  | .ok values =>
    if values.length = names.length then .ok (.ofList (names.zip (values.map .text)))
    else .error s!"expected {names.length} field(s), found {values.length}"

/-- The rows of the records after the header, numbered from 1. -/
def rowsUnder (input : Bytes) (names : List String) (records : List Located) : List RowItem :=
  (records.zipIdx 1).map fun (record, index) => .ofCells index (cells input names index record)

/-- The rows of a file. -/
def rows (input : Bytes) : List RowItem :=
  match records (dropByteOrderMark input) with
  | [] => []
  | header :: rest =>
    match texts header.fields with
    | .error fault => [.failed ⟨0, "unreadable header: " ++ fault.message 0 .start⟩]
    | .ok names => rowsUnder input (names.map headerName) rest

end RecordGate.Csv
