import RecordGate.Json.Document
import RecordGate.Json.Skip

/-!
# Reading structures from text

A structure whose members are simple is read straight from its text: of two things that are wrong, the
first in the text is reported, be it a broken text or a value of another type.

Main definitions: `Json.Shape`, `Json.readStructure`.
-/

namespace RecordGate.Json

/-- Why a text is not the structure that is asked for. -/
inductive ReadError where
  | notJson (e : ParseError)
  | refused (r : Refusal)
  | repeated (name : String)

def ReadError.message : ReadError → String
  | .notJson e => e.message
  | .refused r => r.message
  | .repeated name => s!"duplicate field `{name}`"

/-- What a member may be. -/
inductive Shape where
  | natural
  | optionalText
  /-- Whole numbers by name. -/
  | naturals

/-- A value other than a container; a container is named as it begins. -/
def scalar (expected : String) (fuel : Nat) (input : Bytes) : Except ReadError (Json × Bytes) :=
  match skipGaps input with
  | 0x5B :: _ => .error (.refused (.wrongType (.arr []) expected))
  | 0x7B :: _ => .error (.refused (.wrongType (.obj []) expected))
  | input => (value 0 fuel input).mapError .notJson

/-- A whole number. -/
def natural (fuel : Nat) (input : Bytes) : Except ReadError (Nat × Bytes) := do
  let (j, rest) ← scalar "u64" fuel input
  let n ← (readNat j).mapError .refused
  return (n, rest)

/-- The members of an object of whole numbers after its opening brace; those so far in reverse. -/
def naturalMembers : (fuel : Nat) → (done : List (String × Json)) → Bytes → Except ReadError (Json × Bytes)
  | 0, _, _ => .error (.notJson .eofObject)
  | fuel + 1, done, input =>
    match nextName done.isEmpty fuel input with
    | .error e => .error (.notJson e)
    | .ok (.closed rest) => .ok (ofMembers done.reverse, rest)
    | .ok (.found name rest) => do
      let rest ← (colon rest).mapError .notJson
      let (n, rest) ← natural fuel rest
      naturalMembers fuel ((name, ofNat n) :: done) rest

/-- A value of the given shape. -/
def Shape.read (fuel : Nat) (input : Bytes) : Shape → Except ReadError (Json × Bytes)
  | .natural => (Json.natural fuel input).map fun (n, rest) => (ofNat n, rest)
  | .optionalText => do
    let (j, rest) ← scalar "a string" fuel input
    let _ ← (readOption readString j).mapError .refused
    return (j, rest)
  | .naturals =>
    match skipGaps input with
    | 0x7B :: rest => naturalMembers fuel [] rest
    | input => do
      let (j, _) ← scalar "a map" fuel input
      .error (.refused (.wrongType j "a map"))

/-- The members of a structure after its opening brace; those so far in reverse. -/
def structureMembers (shapes : List (String × Shape)) :
    (fuel : Nat) → (first : Bool) → (done : List (String × Json)) → Bytes →
      Except ReadError (List (String × Json) × Bytes)
  | 0, _, _, _ => .error (.notJson .eofObject)
  | fuel + 1, first, done, input =>
    match nextName first fuel input with
    | .error e => .error (.notJson e)
    | .ok (.closed rest) => .ok (done.reverse, rest)
    | .ok (.found name rest) =>
      match shapes.lookup name with
      | none => do
        let rest ← (colon rest).mapError .notJson
        let rest ← (skipValue fuel rest).mapError .notJson
        structureMembers shapes fuel false done rest
      | some shape =>
        if done.any (·.1 == name) then .error (.repeated name)
        else do
          let rest ← (colon rest).mapError .notJson
          let (j, rest) ← shape.read fuel rest
          structureMembers shapes fuel false ((name, j) :: done) rest

/--
The members of a structure that is written as an array, after its opening bracket. The bracket that
closes it is left.
-/
def structureItems (fuel : Nat) :
    (shapes : List (String × Shape)) → (first : Bool) → Bytes → Except ReadError (List (String × Json) × Bytes)
  | [], _, input => .ok ([], input)
  | (name, shape) :: shapes, first, input =>
    match nextItem first input with
    | .error e => .error (.notJson e)
    | .ok (.closed _) => .ok ([], input)
    | .ok (.found _ rest) => do
      let (j, rest) ← shape.read fuel rest
      let (later, rest) ← structureItems fuel shapes false rest
      return ((name, j) :: later, rest)

/-- The bracket after the last member. -/
def closeItems (input : Bytes) : Except ParseError Bytes :=
  match skipGaps input with
  | [] => .error .eofList
  | b :: rest =>
    if b == 0x5D then .ok rest
    else if b == 0x2C && (skipGaps rest).head? == some 0x5D then .error .trailingComma
    else .error .trailingCharacters

/-- Reads a text that is one structure of the given name, and builds a value from its members. -/
def readStructure {α : Type} (type : String) (shapes : List (String × Shape))
    (build : Members → Except Refusal α) (input : Bytes) : Except ReadError α := do
  let fuel := input.length + 1
  let names := shapes.map (·.1)
  let (a, rest) ← match skipGaps input with
    | 0x7B :: rest => do
      let (entries, rest) ← structureMembers shapes fuel true [] rest
      let a ← (build ⟨entries, .missing⟩).mapError .refused
      pure (a, rest)
    | 0x5B :: rest => do
      let (entries, rest) ← structureItems fuel shapes true rest
      let shape := s!"struct {type} with {names.length} elements"
      let a ← (build ⟨entries, fun name => .wrongLength (names.idxOf name) shape⟩).mapError .refused
      let rest ← (closeItems rest).mapError .notJson
      pure (a, rest)
    | input => do
      let (j, _) ← scalar s!"struct {type}" fuel input
      .error (.refused (.wrongType j s!"struct {type}"))
  if (skipGaps rest).isEmpty then .ok a else .error (.notJson .trailingCharacters)

end RecordGate.Json
