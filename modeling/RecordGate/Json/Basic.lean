import RecordGate.Json.Binary64

/-!
# JSON values

Numbers are whole or binary floating-point. What is read from a text has the members of an object in the
order of their names, each name once; what is written keeps the order in which it declares them.

Main definitions: `Json`, `Json.ofMembers` (later members win), `Json.get?`.
-/

namespace RecordGate

/-- A JSON number. Whole numbers stay exact while they fit 64 bits, signed or unsigned. -/
inductive Json.Number where
  | whole (n : Int)
  | float (x : Binary64)
deriving DecidableEq

/-- A JSON value. -/
inductive Json where
  | null
  | bool (b : Bool)
  | num (n : Json.Number)
  | str (s : String)
  | arr (items : List Json)
  | obj (members : List (String × Json))

namespace Json

instance : Inhabited Json := ⟨.null⟩

/-- Puts a member into members sorted by name, in place of one of the same name. -/
def insertMember (name : String) (value : Json) : List (String × Json) → List (String × Json)
  | [] => [(name, value)]
  | (n, v) :: rest =>
    if name < n then (name, value) :: (n, v) :: rest
    else if name == n then (name, value) :: rest
    else (n, v) :: insertMember name value rest

/-- Members in the order of their names; of those with one name the last stays. -/
def sortMembers (members : List (String × Json)) : List (String × Json) :=
  members.foldl (fun done m => insertMember m.1 m.2 done) []

/-- An object with sorted members. -/
def ofMembers (members : List (String × Json)) : Json := .obj (sortMembers members)

/-- A whole number. -/
def ofNat (n : Nat) : Json := .num (.whole n)

/-- The member of an object. -/
def get? (j : Json) (name : String) : Option Json :=
  match j with
  | .obj members => (members.find? (·.1 == name)).map (·.2)
  | _ => none

/-- A member written only when there is a value. -/
def member? (name : String) (value : Option Json) : List (String × Json) :=
  match value with
  | some v => [(name, v)]
  | none => []

/-- The value, or null. -/
def ofOption {α : Type} (f : α → Json) : Option α → Json
  | some a => f a
  | none => .null

end Json

end RecordGate
