import RecordGate.Json.Basic

/-!
# TOML documents

The values of a TOML document, and the rules by which its lines build one: a key is given a value
once, a table is opened once, and a table written as a value is closed.

Main definitions: `Toml.Value`, `Toml.assign?`, `Toml.openTable?`, `Toml.openElement?`.
-/

namespace RecordGate.Toml

/-- How a table came about; this decides what may still be added to it. -/
inductive Origin where
  /-- It has a heading of its own. -/
  | heading
  /-- It stands in the heading of another table. -/
  | path
  /-- It stands in the dotted key of a value. -/
  | dotted
  /-- It is written as a value. -/
  | value
deriving DecidableEq

/-- A value. Floating-point numbers and times are kept as written. -/
inductive Value where
  | string (s : String)
  | integer (n : Int)
  | float (written : String)
  | boolean (b : Bool)
  | time (written : String)
  | array (items : List Value)
  | table (origin : Origin) (entries : List (String × Value))
  /-- The elements under headings with double brackets. -/
  | tables (elements : List (List (String × Value)))

/-- The content of a table, in the order of writing. -/
abbrev Entries := List (String × Value)

def find? (es : Entries) (key : String) : Option Value := (es.find? (·.1 == key)).map (·.2)

/-- Puts another value in place of the one that a key has. -/
def replace (es : Entries) (key : String) (v : Value) : Entries :=
  es.map fun e => if e.1 == key then (key, v) else e

/-- Changes the table at a path of keys. Tables that are missing come about on the way. -/
def under? (change? : Entries → Option Entries) : List String → Entries → Option Entries
  | [], es => change? es
  | key :: path, es =>
    match find? es key with
    | none => (under? change? path []).map fun sub => es ++ [(key, .table .path sub)]
    | some (.table .value _) => none
    | some (.table origin sub) => (under? change? path sub).map fun sub => replace es key (.table origin sub)
    | some (.tables elements) =>
      match elements.getLast? with
      | some last =>
        (under? change? path last).map fun last => replace es key (.tables (elements.dropLast ++ [last]))
      | none => none
    | some _ => none

/-- Gives a value to a dotted key. Only tables that have no heading yet can be entered by dots. -/
def assign? (v : Value) (key : String) : List String → Entries → Option Entries
  | [], es => if (find? es key).isSome then none else some (es ++ [(key, v)])
  | step :: path, es =>
    match find? es step with
    | none => (assign? v key path []).map fun sub => es ++ [(step, .table .dotted sub)]
    | some (.table origin sub) =>
      if origin == .dotted || (origin == .path && !path.isEmpty) then
        (assign? v key path sub).map fun sub => replace es step (.table origin sub)
      else none
    | some (.tables elements) =>
      match elements.getLast? with
      | some last =>
        if path.isEmpty then none
        else (assign? v key path last).map fun last => replace es step (.tables (elements.dropLast ++ [last]))
      | none => none
    | some _ => none

/-- Opens the table of a heading. -/
def openTable? (key : String) (es : Entries) : Option Entries :=
  match find? es key with
  | none => some (es ++ [(key, .table .heading [])])
  | some (.table .path sub) => some (replace es key (.table .heading sub))
  | some _ => none

/-- Opens another element under a heading with double brackets. -/
def openElement? (key : String) (es : Entries) : Option Entries :=
  match find? es key with
  | none => some (es ++ [(key, .tables [[]])])
  | some (.tables elements) => some (replace es key (.tables (elements ++ [[]])))
  | some _ => none

/-- A line of a document. The key of a value, or of a table, stands apart from the path to it. -/
inductive Statement where
  | assign (path : List String) (key : String) (v : Value)
  | table (path : List String) (key : String)
  | element (path : List String) (key : String)

/-- Adds the lines of a document to the tables before them; values go to the table at `current`. -/
def build? : (current : List String) → List Statement → Entries → Option Entries
  | _, [], es => some es
  | current, .assign path key v :: rest, es => do
    let es ← under? (assign? v key path) current es
    build? current rest es
  | _, .table path key :: rest, es => do
    let es ← under? (openTable? key) path es
    build? (path ++ [key]) rest es
  | _, .element path key :: rest, es => do
    let es ← under? (openElement? key) path es
    build? (path ++ [key]) rest es

mutual

/-- The value in JSON. A time is no text there, so it becomes an object that nothing reads. -/
def Value.toJson : Value → Json
  | .string s => .str s
  | .integer n => .num (.whole n)
  | .float _ => .num (.float .zero)
  | .boolean b => .bool b
  | .time written => .obj [("time", .str written)]
  | .array items => .arr (itemsToJson items)
  | .table _ entries => .obj (entriesToJson entries)
  | .tables elements => .arr (elementsToJson elements)

/-- The items of an array in JSON. -/
def itemsToJson : List Value → List Json
  | [] => []
  | v :: rest => v.toJson :: itemsToJson rest

/-- The entries of a table as members. -/
def entriesToJson : List (String × Value) → List (String × Json)
  | [] => []
  | (key, v) :: rest => (key, v.toJson) :: entriesToJson rest

/-- The elements of a list of tables in JSON. -/
def elementsToJson : List (List (String × Value)) → List Json
  | [] => []
  | es :: rest => .obj (entriesToJson es) :: elementsToJson rest

end

end RecordGate.Toml
