import RecordGate.File.Item
import RecordGate.Json.Printer
import RecordGate.Json.Reader

/-!
# Rows of JSON files

A record is a JSON object; its members are the cells of a row. Records stand in one array, or each on
a line of its own. An array is cut at its commas before the elements are read, so an element that is
not JSON is an error of its row alone.

Main definitions: `JsonRecord.cells`, `JsonArray.split`, `JsonArray.rows`, `JsonLines.rows`.
-/

namespace RecordGate

namespace JsonRecord

/-- The name of a sort of JSON value. -/
def sortName : Json → String
  | .null => "null"
  | .bool _ => "boolean"
  | .num _ => "number"
  | .str _ => "string"
  | .arr _ => "array"
  | .obj _ => "object"

/-- The cell of a member. A number is a decimal if it fits; arrays and objects keep their text. -/
def cell : Json → Cell
  | .null => .null
  | .bool b => .bool b
  | .num n =>
    let text := toString n
    match Decimal.parse? text with
    | some d => .number d
    | none => .text text
  | .str s => .text s
  | nested => .text nested.compact

/-- The cells of a record. -/
def ofJson : Json → Except String (Record Cell)
  | .obj members => .ok (.ofList (members.map fun m => (m.1, cell m.2)))
  | j => .error s!"expected a JSON object, found {sortName j}"

/-- The cells of a record as it stands in a file, or what is wrong with it. -/
def cells (bytes : Bytes) : Except String (Record Cell) :=
  match Json.parse bytes with
  | .ok j => ofJson j
  | .error e => .error e.message

/-- A byte between records: a gap, or a form feed. -/
def isSpace (b : UInt8) : Bool := Json.isGapByte b || b == 0x0C

end JsonRecord

namespace JsonArray

open JsonRecord (isSpace)

/-- Where in an element the splitter stands. -/
inductive Place where
  | plain
  | inString
  /-- In a string, after a backslash. -/
  | escaped
deriving DecidableEq

/-- The open brackets around a byte, and whether it stands in a string. -/
structure State where
  depth : Nat
  place : Place
deriving DecidableEq

/-- The state at the front of an element. -/
def State.start : State := ⟨0, .plain⟩

/-- The state after a byte. -/
def State.after (s : State) (b : UInt8) : State :=
  match s.place with
  | .escaped => { s with place := .inString }
  | .inString =>
    if b == 0x5C then { s with place := .escaped }
    else if b == 0x22 then { s with place := .plain }
    else s
  | .plain =>
    if b == 0x22 then { s with place := .inString }
    else if b == 0x7B || b == 0x5B then { s with depth := s.depth + 1 }
    else if b == 0x7D || b == 0x5D then { s with depth := s.depth - 1 }
    else s

/-- Whether a byte ends the element: a comma or a closing bracket that belongs to the array itself. -/
def State.endsAt (s : State) (b : UInt8) : Bool := s == .start && (b == 0x2C || b == 0x5D)

/-- How an array ends. -/
inductive Ending where
  | closed
  /-- Something follows the closing bracket. -/
  | trailing (b : UInt8)
  | truncated
  | emptyElement
deriving DecidableEq

/-- What follows the closing bracket decides the ending. -/
def Ending.after (rest : Bytes) : Ending :=
  match rest.dropWhile isSpace with
  | [] => .closed
  | b :: _ => .trailing b

/--
Cuts an array into its elements. `element` holds the bytes of the current element in reverse, `done` the
elements before it in reverse.
-/
def splitFrom : State → (element : Bytes) → (done : List Bytes) → Bytes → List Bytes × Ending
  | _, _, done, [] => (done.reverse, .truncated)
  | s, element, done, b :: rest =>
    if s.endsAt b then
      if element.all isSpace then (done.reverse, .emptyElement)
      else if b == 0x2C then splitFrom .start [] (element.reverse :: done) rest
      else ((element.reverse :: done).reverse, .after rest)
    else splitFrom (s.after b) (b :: element) done rest

/-- The elements of an array after its opening bracket, and how it ends. -/
def split (input : Bytes) : List Bytes × Ending :=
  match input.dropWhile isSpace with
  | [] => ([], .truncated)
  | b :: rest => if b == 0x5D then ([], .after rest) else splitFrom .start [] [] (b :: rest)

/-- The byte as a character of the first 256. -/
def byteName (b : UInt8) : String := String.singleton (Char.ofNat b.toNat)

/-- What is said of an array of so many elements that does not end well. -/
def Ending.fault? (count : Nat) : Ending → Option FileError
  | .closed => none
  | .trailing b => some ⟨count, s!"unexpected `{byteName b}` after the closing bracket of the JSON array"⟩
  | .truncated => some ⟨count, "unexpected end of JSON array"⟩
  | .emptyElement => some ⟨count, s!"empty element after row {count} in JSON array"⟩

/-- The rows of the elements of an array, and the fault of its ending. -/
def rowsOf (elements : List Bytes) (ending : Ending) : List RowItem :=
  RowItem.numbered (elements.map JsonRecord.cells) ++
    (ending.fault? elements.length).toList.map .failed

/-- The row of a file that is a single record. -/
def singleRow (input : Bytes) : List RowItem :=
  match Json.parse input with
  | .ok j => RowItem.numbered [JsonRecord.ofJson j]
  | .error e => [.failed ⟨0, e.message⟩]

/-- The rows of a file: an array of records, or a single record. -/
def rows (input : Bytes) : List RowItem :=
  match input.dropWhile isSpace with
  | [] => [.failed ⟨0, "empty JSON document"⟩]
  | b :: rest =>
    if b == 0x5B then
      let (elements, ending) := split rest
      rowsOf elements ending
    else if b == 0x7B then singleRow (b :: rest)
    else [.failed ⟨0, s!"expected a JSON array or object, found `{byteName b}`"⟩]

end JsonArray

namespace JsonLines

open JsonRecord (isSpace)

/-- The lines of a file, each with its line feed. `line` holds the current line in reverse. -/
def linesFrom : (line : Bytes) → (done : List Bytes) → Bytes → List Bytes
  | line, done, [] => (line.reverse :: done).reverse
  | line, done, b :: rest =>
    if b == 0x0A then linesFrom [] ((b :: line).reverse :: done) rest else linesFrom (b :: line) done rest

def lines (input : Bytes) : List Bytes := linesFrom [] [] input

/-- The rows of a file with a record on each line. Blank lines do not count. -/
def rows (input : Bytes) : List RowItem :=
  RowItem.numbered (((lines input).filter fun line => !line.all isSpace).map JsonRecord.cells)

end JsonLines

end RecordGate
