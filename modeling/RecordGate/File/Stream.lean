import RecordGate.File.Rows

/-!
# Reading a file item by item

A reader takes the items of a file off one at a time, and keeps between two items how far it has come: the
bytes that are left, the number of rows so far, and what the format asks for. Once a file has ended or cannot
be read on, its reader is done and gives nothing more.

Main definitions: `Format.stream`, `RowStream.next`, and `RowStream.answer`, what a reader answers when it has
been asked a number of times before.
-/

namespace RecordGate

/-! ## CSV -/

namespace Csv

/-- A file of which the first records have been read. -/
structure Stream where
  /-- The whole file, in which places are told. -/
  input : Bytes
  left : Bytes
  /-- The names of the columns, once the header has been read. -/
  names : Option (List String)
  rowsRead : Nat
  done : Bool

namespace Stream

def start (input : Bytes) : Stream := ⟨input, dropByteOrderMark input, none, 0, false⟩

def finish (s : Stream) : Option RowItem × Stream := (none, { s with done := true })

/-- The next row under the names of the columns. -/
def nextRow (names : List String) (s : Stream) : Option RowItem × Stream :=
  match record? s.left with
  | none => s.finish
  | some (fields, rest) =>
    let index := s.rowsRead + 1
    (some (.ofCells index (cells s.input names index ⟨s.left, fields⟩)), { s with left := rest, rowsRead := index })

/-- The next item. The header is read before the first row. -/
def next (s : Stream) : Option RowItem × Stream :=
  if s.done then (none, s)
  else
    match s.names with
    | some names => s.nextRow names
    | none =>
      match record? s.left with
      | none => s.finish
      | some (fields, rest) =>
        match texts fields with
        | .error fault =>
          (some (.failed ⟨s.rowsRead, "unreadable header: " ++ fault.message 0 .start⟩), { s with done := true })
        | .ok names =>
          let names := names.map headerName
          nextRow names { s with left := rest, names := some names }

end Stream

end Csv

/-! ## JSON -/

namespace JsonArray

open JsonRecord (isSpace)

/-- How far an array has been read. -/
inductive Progress where
  | start
  /-- Before an element; `first` tells that there was none before it. -/
  | within (first : Bool)
  | closed
  | done
deriving DecidableEq

/-- A file of which the first elements have been read. -/
structure Stream where
  left : Bytes
  progress : Progress
  rowsRead : Nat

/--
Cuts off an element in front of the byte that ends it, and gives that byte and what follows it; none when
nothing ends the element. `element` holds its first bytes in reverse.
-/
def element? : State → (element : Bytes) → Bytes → Option (Bytes × UInt8 × Bytes)
  | _, _, [] => none
  | s, element, b :: rest =>
    if s.endsAt b then some (element.reverse, b, rest) else element? (s.after b) (b :: element) rest

namespace Stream

def start (input : Bytes) : Stream := ⟨input, .start, 0⟩

def fail (message : String) (s : Stream) : Option RowItem × Stream :=
  (some (.failed ⟨s.rowsRead, message⟩), { s with progress := .done })

/-- Ends the array in the given way. -/
def finish (ending : Ending) (s : Stream) : Option RowItem × Stream :=
  ((ending.fault? s.rowsRead).map .failed, { s with progress := .done })

/-- A record, after which the file goes on as told. -/
def row (cells : Except String (Record Cell)) (left : Bytes) (progress : Progress) (s : Stream) :
    Option RowItem × Stream :=
  (some (.ofCells (s.rowsRead + 1) cells), ⟨left, progress, s.rowsRead + 1⟩)

/-- The next element, which must not be blank. -/
def nextElement (s : Stream) : Option RowItem × Stream :=
  match element? .start [] s.left with
  | none => s.finish .truncated
  | some (element, b, rest) =>
    if element.all isSpace then s.finish .emptyElement
    else s.row (JsonRecord.cells element) rest (if b == 0x5D then .closed else .within false)

/-- The first element, unless the array is closed at once. -/
def nextFirst (s : Stream) : Option RowItem × Stream :=
  match s.left.dropWhile isSpace with
  | [] => s.finish .truncated
  | b :: rest => if b == 0x5D then s.finish (.after rest) else nextElement { s with left := b :: rest }

/-- The only record of a file that is no array. -/
def nextSingle (input : Bytes) (s : Stream) : Option RowItem × Stream :=
  match Json.parse input with
  | .ok j => s.row (JsonRecord.ofJson j) [] .done
  | .error e => s.fail e.message

/-- The next item. -/
def next (s : Stream) : Option RowItem × Stream :=
  match s.progress with
  | .done => (none, s)
  | .closed => s.finish (.after s.left)
  | .within true => s.nextFirst
  | .within false => s.nextElement
  | .start =>
    match s.left.dropWhile isSpace with
    | [] => s.fail "empty JSON document"
    | b :: rest =>
      if b == 0x5B then nextFirst { s with left := rest }
      else if b == 0x7B then s.nextSingle (b :: rest)
      else s.fail s!"expected a JSON array or object, found `{byteName b}`"

end Stream

end JsonArray

namespace JsonLines

open JsonRecord (isSpace)

/-- A file of which the first lines have been read. -/
structure Stream where
  left : Bytes
  rowsRead : Nat
  done : Bool

/-- Cuts off a line with its line feed. `line` holds its first bytes in reverse. -/
def lineFrom : (line : Bytes) → Bytes → Bytes × Bytes
  | line, [] => (line.reverse, [])
  | line, b :: rest => if b == 0x0A then ((b :: line).reverse, rest) else lineFrom (b :: line) rest

theorem length_lineFrom_le (line : Bytes) (b : UInt8) (rest : Bytes) :
    (lineFrom line (b :: rest)).2.length ≤ rest.length := by
  induction rest generalizing line b with
  | nil =>
    rw [lineFrom]
    split <;> exact Nat.le_refl 0
  | cons c rest ih =>
    rw [lineFrom]
    split
    · exact Nat.le_refl _
    · exact Nat.le_succ_of_le (ih (b :: line) c)

/-- The next line that is not blank, and what follows it. -/
def nextLine? : Bytes → Option (Bytes × Bytes)
  | [] => none
  | b :: rest =>
    let read := lineFrom [] (b :: rest)
    if read.1.all isSpace then nextLine? read.2 else some read
termination_by input => input.length
decreasing_by exact Nat.lt_succ_of_le (length_lineFrom_le [] b rest)

namespace Stream

def start (input : Bytes) : Stream := ⟨input, 0, false⟩

/-- The next item. -/
def next (s : Stream) : Option RowItem × Stream :=
  if s.done then (none, s)
  else
    match nextLine? s.left with
    | none => (none, { s with done := true })
    | some (line, left) =>
      (some (.ofCells (s.rowsRead + 1) (JsonRecord.cells line)), { s with left := left, rowsRead := s.rowsRead + 1 })

end Stream

end JsonLines

/-! ## All formats -/

/-- A reader of a file in one of the formats. -/
inductive RowStream where
  | csv (s : Csv.Stream)
  | json (s : JsonArray.Stream)
  | jsonLines (s : JsonLines.Stream)

/-- The reader of a file. -/
def Format.stream : Format → Bytes → RowStream
  | .csv, input => .csv (.start input)
  | .json, input => .json (.start input)
  | .jsonLines, input => .jsonLines (.start input)

namespace RowStream

/-- The next item, and the reader behind it; no item when there is none. -/
def next : RowStream → Option RowItem × RowStream
  | csv s => (s.next.1, csv s.next.2)
  | json s => (s.next.1, json s.next.2)
  | jsonLines s => (s.next.1, jsonLines s.next.2)

/-- A reader that has been asked a number of times. -/
def after : (calls : Nat) → RowStream → RowStream
  | 0, s => s
  | calls + 1, s => after calls s.next.2

/-- What a reader answers when it has been asked a number of times before. -/
def answer (calls : Nat) (s : RowStream) : Option RowItem := (s.after calls).next.1

end RowStream

end RecordGate
