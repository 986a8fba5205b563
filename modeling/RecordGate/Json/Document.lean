import RecordGate.Json.Printer
import RecordGate.Text.Quoted

/-!
# Reading documents

Readers that say what is wrong with a document. The members of an object are looked at in the order of
their names, and what is missing is named last, in the order of declaration. A structure may also be
written as an array of its members in that order.

Main definitions: `Json.Refusal` with its message, `Json.Members` and its readers.
-/

namespace RecordGate.Json

/-- Why a document is refused. -/
inductive Refusal where
  | missing (name : String)
  | wrongType (found : Json) (expected : String)
  | wrongValue (found : Json) (expected : String)
  | unknownVariant (name : String) (allowed : List String)
  | wrongLength (length : Nat) (expected : String)

/-- A value as a message names it. -/
def describe : Json → String
  | .null => "null"
  | .bool b => if b then "boolean `true`" else "boolean `false`"
  | .num (.whole n) => s!"integer `{n}`"
  | .num (.float x) => s!"floating point `{x}`"
  | .str s => "string " ++ Text.quoted s
  | .arr _ => "sequence"
  | .obj _ => "map"

/-- The names that are allowed in place of an unknown one. -/
def allowedNames : List String → String
  | [a] => s!"expected `{a}`"
  | [a, b] => s!"expected `{a}` or `{b}`"
  | names => "expected one of " ++ ", ".intercalate (names.map fun n => s!"`{n}`")

def Refusal.message : Refusal → String
  | .missing name => s!"missing field `{name}`"
  | .wrongType found expected => s!"invalid type: {found.describe}, expected {expected}"
  | .wrongValue found expected => s!"invalid value: {found.describe}, expected {expected}"
  | .unknownVariant name allowed => s!"unknown variant `{name}`, {allowedNames allowed}"
  | .wrongLength length expected => s!"invalid length {length}, expected {expected}"

def readString : Json → Except Refusal String
  | .str s => .ok s
  | j => .error (.wrongType j "a string")

def readBool : Json → Except Refusal Bool
  | .bool b => .ok b
  | j => .error (.wrongType j "a boolean")

/-- A whole number of 64 bits without a sign. -/
def readNat (j : Json) : Except Refusal Nat :=
  match j with
  | .num (.whole n) => if n < 0 then .error (.wrongValue j "u64") else .ok n.toNat
  | _ => .error (.wrongType j "u64")

def readOption {α : Type} (read : Json → Except Refusal α) : Json → Except Refusal (Option α)
  | .null => .ok none
  | j => (read j).map some

def readList {α : Type} (read : Json → Except Refusal α) : Json → Except Refusal (List α)
  | .arr items => items.mapM read
  | j => .error (.wrongType j "a sequence")

/-- One of several names, as a string or as the only member of an object, which is null. -/
def readName {α : Type} (all : List α) (name : α → String) (j : Json) : Except Refusal α :=
  let find (s : String) : Except Refusal α :=
    match all.find? (name · == s) with
    | some a => .ok a
    | none => .error (.unknownVariant s (all.map name))
  match j with
  | .str s => find s
  | .obj [(s, content)] => do
    let a ← find s
    match content with
    | .null => .ok a
    | c => .error (.wrongType c "unit")
  | .obj _ => .error (.wrongValue j "map with a single key")
  | _ => .error (.wrongType j "string or map")

/-- The members of a structure. -/
structure Members where
  entries : List (String × Json)
  /-- How an absent member is reported. -/
  absent : String → Refusal

namespace Members

/--
The members of a structure of the given name, all found to be well-formed by `check`. Members of other
names are passed over.
-/
def read (type : String) (names : List String) (check : String → Json → Except Refusal Unit) (j : Json) :
    Except Refusal Members := do
  match j with
  | .obj members =>
    let entries := members.filter fun m => names.contains m.1
    entries.forM fun m => check m.1 m.2
    .ok ⟨entries, .missing⟩
  | .arr items =>
    let entries := names.zip items
    entries.forM fun m => check m.1 m.2
    let shape := s!"struct {type} with {names.length} elements"
    if items.length > names.length then .error (.wrongLength items.length "fewer elements in array")
    else .ok ⟨entries, fun name => .wrongLength (names.idxOf name) shape⟩
  | j => .error (.wrongType j s!"struct {type}")

def find? (m : Members) (name : String) : Option Json := (m.entries.find? (·.1 == name)).map (·.2)

/-- A member that must be there. -/
def required {α : Type} (m : Members) (name : String) (read : Json → Except Refusal α) : Except Refusal α :=
  match m.find? name with
  | some j => read j
  | none => .error (m.absent name)

/-- A member that may be absent. -/
def defaulted {α : Type} (m : Members) (name : String) (default : α) (read : Json → Except Refusal α) :
    Except Refusal α :=
  match m.find? name with
  | some j => read j
  | none => .ok default

end Members

end RecordGate.Json
