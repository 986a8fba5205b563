import RecordGate.Text.Blank
import RecordGate.Text.Lowercase

/-!
# File formats

The formats in which rows arrive, and how the format of a file is told: by its declared content type,
or else by the extension of its source.

Main definitions: `Format`, `Format.detect?`.
-/

namespace RecordGate

/-- A format that rows can be read from. -/
inductive Format where
  | csv
  /-- One array of records, or one record. -/
  | json
  /-- A record on every line. -/
  | jsonLines
deriving DecidableEq

namespace Format

/-- The name in messages. -/
def name : Format → String
  | .csv => "csv"
  | .json => "json"
  | .jsonLines => "jsonl"

/-- The name in documents. -/
def key : Format → String
  | .csv => "csv"
  | .json => "json"
  | .jsonLines => "json_lines"

def ofKey? (key : String) : Option Format := [csv, json, jsonLines].find? (·.key == key)

/-- The format of a content type; parameters after a semicolon do not matter. -/
def ofContentType? (contentType : String) : Option Format :=
  let essence := Text.lowercaseAscii (Text.trim (String.ofList (contentType.toList.takeWhile (· != ';'))))
  if ["text/csv", "application/csv"].contains essence then some .csv
  else if ["application/json", "text/json"].contains essence then some .json
  else if ["application/x-ndjson", "application/jsonl", "application/x-jsonlines",
      "application/jsonlines"].contains essence then some .jsonLines
  else none

/-- The parts of a list between the elements that satisfy `sep`. -/
def partsBy (sep : Char → Bool) : List Char → List (List Char)
  | [] => [[]]
  | c :: rest =>
    if sep c then [] :: partsBy sep rest
    else
      match partsBy sep rest with
      | part :: parts => (c :: part) :: parts
      | [] => [[c]]

/-- The name of the file at a path. Empty parts and single points do not count. -/
def fileName? (path : String) : Option (List Char) :=
  match ((partsBy (· == '/') path.toList).filter fun part => part != [] && part != ['.']).getLast? with
  | some name => if name == ['.', '.'] then none else some name
  | none => none

/-- What follows the last point of a file's name, unless nothing stands before the point. -/
def extension? (path : String) : Option String := do
  let name ← fileName? path
  let reversed := name.reverse
  match reversed.dropWhile (· != '.') with
  | _ :: _ :: _ => some (String.ofList (reversed.takeWhile (· != '.')).reverse)
  | _ => none

/-- The format of a source by its extension, in any case. -/
def ofExtension? (source : String) : Option Format := do
  let extension := Text.lowercaseAscii (← extension? source)
  if extension == "csv" then some .csv
  else if extension == "json" then some .json
  else if extension == "jsonl" || extension == "ndjson" then some .jsonLines
  else none

/-- The format of a source. A content type that names a format goes before the extension. -/
def detect? (source : String) (contentType : Option String) : Option Format :=
  (contentType.bind ofContentType?).or (ofExtension? source)

/-- How a source without a format is named. -/
def unsupportedName (source : String) : Option String → String
  | some contentType => s!"{source} ({contentType})"
  | none => source

end Format

end RecordGate
