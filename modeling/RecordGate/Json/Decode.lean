import RecordGate.Json.Basic
import RecordGate.Record

/-!
# Taking JSON values apart

Small readers from JSON values to other types. Each is none on a value of another shape. An object may
hold more members than are asked for.
-/

namespace RecordGate.Json

def string? : Json → Option String
  | .str s => some s
  | _ => none

def bool? : Json → Option Bool
  | .bool b => some b
  | _ => none

/-- A whole number that is not negative. -/
def nat? : Json → Option Nat
  | .num (.whole n) => if n < 0 then none else some n.toNat
  | _ => none

def list? {α : Type} (item? : Json → Option α) : Json → Option (List α)
  | .arr items => items.mapM item?
  | _ => none

/-- An object whose members are all of one type. -/
def record? {α : Type} (value? : Json → Option α) : Json → Option (Record α)
  | .obj members => (members.mapM fun m => (value? m.2).map (m.1, ·)).map Record.ofList
  | _ => none

/-- A name, as a string or as the only member of an object, which is null. -/
def variant? {α : Type} (ofName? : String → Option α) : Json → Option α
  | .str s => ofName? s
  | .obj [(s, .null)] => ofName? s
  | _ => none

/-- A value, or null. -/
def nullable? {α : Type} (value? : Json → Option α) : Json → Option (Option α)
  | .null => some none
  | j => (value? j).map some

/--
A structure as an object. It may also be written as an array of its members in the order of declaration,
of which the last ones may be left out.
-/
def asObject? (names : List String) : Json → Option Json
  | .obj members => some (.obj members)
  | .arr items => if items.length ≤ names.length then some (.obj (names.zip items)) else none
  | _ => none

/-- A member that must be there. -/
def required? {α : Type} (j : Json) (name : String) (value? : Json → Option α) : Option α :=
  (j.get? name).bind value?

/-- A member that may be absent. -/
def defaulted? {α : Type} (j : Json) (name : String) (default : α) (value? : Json → Option α) : Option α :=
  match j.get? name with
  | some v => value? v
  | none => some default

/-- A member that may be absent or null. -/
def optional? {α : Type} (j : Json) (name : String) (value? : Json → Option α) : Option (Option α) :=
  defaulted? j name none (nullable? value?)

end RecordGate.Json
