import RecordGate.Json.Printer

/-!
# JSON contracts

A contract is a JSON document in the vocabulary of JSON Schema, draft 7, that says which documents are
acceptable. Understood are `type`, `enum`, `oneOf`, `properties`, `required`, `items`, `minimum` and
references to `definitions`; other keywords accept everything.

`Contract.ofJson` reads a contract, and `Contract.violations` lists what a document breaks: the keywords
of a contract in the order of their names, properties in the order of theirs.
-/

namespace RecordGate.Json

/-- The types that a contract can ask for. -/
inductive BasicType where
  | array
  | boolean
  | integer
  | null
  | number
  | object
  | string
deriving DecidableEq

namespace BasicType

def name : BasicType → String
  | .array => "array"
  | .boolean => "boolean"
  | .integer => "integer"
  | .null => "null"
  | .number => "number"
  | .object => "object"
  | .string => "string"

def all : List BasicType := [array, boolean, integer, null, number, object, string]

def ofName? (s : String) : Option BasicType := all.find? (·.name == s)

/-- Whether a value is of the type. A number without a fraction is an integer. -/
def accepts : BasicType → Json → Bool
  | .array, .arr _ => true
  | .boolean, .bool _ => true
  | .integer, .num (.whole _) => true
  | .integer, .num (.float x) => let (n, d) := x.ratio; n % d == 0
  | .null, .null => true
  | .number, .num _ => true
  | .object, .obj _ => true
  | .string, .str _ => true
  | _, _ => false

end BasicType

/-- A number as a ratio. -/
def Number.ratio : Number → Int × Nat
  | .whole n => (n, 1)
  | .float x =>
    let (n, d) := x.ratio
    (if x.negative then -(n : Int) else n, d)

/-- Whether one number is below another. -/
def Number.below (a b : Number) : Bool :=
  let (n, d) := a.ratio
  let (m, e) := b.ratio
  n * e < m * d

/-- What a document must satisfy: all of several demands. -/
inductive Contract where
  | all (demands : List Contract)
  | type (types : List BasicType)
  | enum (values : List Json)
  | oneOf (contracts : List Contract)
  | properties (contracts : List (String × Contract))
  | required (names : List String)
  | items (contract : Contract)
  | minimum (bound : Number)

/-- A part of a document that breaks its contract. The path names members and positions. -/
structure ContractViolation where
  path : List String
  message : String
deriving DecidableEq

/-- Equality of values in the text without blanks. -/
def sameText (a b : Json) : Bool := a.compact == b.compact

namespace Contract

def typeMessage (types : List BasicType) (j : Json) : String :=
  match types with
  | [t] => s!"{j.compact} is not of type {quoted t.name}"
  | _ => s!"{j.compact} is not of types " ++ ", ".intercalate (types.map fun t => quoted t.name)

mutual

/-- What a document breaks, with the path to it. -/
def violations (path : List String) : Contract → Json → List ContractViolation
  | .all demands, j => violationsOfAll path demands j
  | .type types, j => if types.any (·.accepts j) then [] else [⟨path, typeMessage types j⟩]
  | .enum values, j =>
    if values.any (sameText j) then [] else [⟨path, s!"{j.compact} is not one of {(Json.arr values).compact}"⟩]
  | .oneOf contracts, j =>
    let count := countAccepting path contracts j
    if count == 1 then []
    else if count == 0 then
      [⟨path, s!"{j.compact} is not valid under any of the schemas listed in the 'oneOf' keyword"⟩]
    else [⟨path, s!"{j.compact} is valid under more than one of the schemas listed in the 'oneOf' keyword"⟩]
  | .properties contracts, j => violationsOfMembers path contracts j
  | .required names, j =>
    match j with
    | .obj members =>
      (names.filter fun n => !members.any (·.1 == n)).map fun n => ⟨path, s!"{quoted n} is a required property"⟩
    | _ => []
  | .items contract, j =>
    match j with
    | .arr elements => elements.zipIdx.flatMap fun (item, i) => violations (path ++ [toString i]) contract item
    | _ => []
  | .minimum bound, j =>
    match j with
    | .num n => if n.below bound then [⟨path, s!"{n} is less than the minimum of {bound}"⟩] else []
    | _ => []

/-- What a document breaks of several demands. -/
def violationsOfAll (path : List String) : List Contract → Json → List ContractViolation
  | [], _ => []
  | c :: rest, j => violations path c j ++ violationsOfAll path rest j

/-- How many contracts accept a document. -/
def countAccepting (path : List String) : List Contract → Json → Nat
  | [], _ => 0
  | c :: rest, j => (if (violations path c j).isEmpty then 1 else 0) + countAccepting path rest j

/-- What the members of a document break. -/
def violationsOfMembers (path : List String) : List (String × Contract) → Json → List ContractViolation
  | [], _ => []
  | (name, c) :: rest, j =>
    (match j.get? name with
      | some v => violations (path ++ [name]) c v
      | none => []) ++ violationsOfMembers path rest j

end

/-- A keyword whose value is not one that it can have. -/
inductive Fault where
  | notAType (value : Json)
  | malformed (value : Json)

def Fault.message : Fault → String
  | .notAType v => s!"{v.compact} is not valid under any of the schemas listed in the 'anyOf' keyword"
  | .malformed v => s!"{v.compact} is not a schema"

/-- The types of the keyword `type`. -/
def typesOf (j : Json) : Except Fault (List BasicType) :=
  let one (j : Json) : Except Fault BasicType :=
    match j with
    | .str s =>
      match BasicType.ofName? s with
      | some t => .ok t
      | none => .error (.notAType j)
    | _ => .error (.notAType j)
  match j with
  | .arr names => do
    let types ← names.mapM one
    .ok (BasicType.all.filter types.contains)
  | j => (one j).map ([·])

/-- The contract that a reference names. -/
def resolve (root : Json) (reference : String) : Option Json :=
  let folder := "#/definitions/"
  if folder.toList.isPrefixOf reference.toList then
    (root.get? "definitions").bind (·.get? (String.ofList (reference.toList.drop folder.length)))
  else none

/--
Reads a contract. Keywords, and the members that one names, are taken in the order of their names;
references are followed at most `fuel` deep.
-/
def ofJsonWithin (root : Json) : (fuel : Nat) → Json → Except Fault Contract
  | 0, _ => .ok (.all [])
  | fuel + 1, j =>
    match j with
    | .obj members =>
      match j.get? "$ref" with
      | some (.str reference) =>
        match resolve root reference with
        | some target => ofJsonWithin root fuel target
        | none => .error (.malformed (.str reference))
      | _ => do
        let demands ← (sortMembers members).filterMapM fun (name, value) => do
          match name, value with
          | "enum", .arr values => return some (.enum values)
          | "items", value => return some (.items (← ofJsonWithin root fuel value))
          | "minimum", .num n => return some (.minimum n)
          | "oneOf", .arr options => return some (.oneOf (← options.mapM (ofJsonWithin root fuel)))
          | "properties", .obj ps =>
            return some (.properties (← (sortMembers ps).mapM fun p => do return (p.1, ← ofJsonWithin root fuel p.2)))
          | "required", .arr names =>
            return some (.required (names.filterMap fun n => match n with
              | .str s => some s
              | _ => none))
          | "type", value => return some (.type (← typesOf value))
          | _, _ => return none
        .ok (.all demands)
    | .bool true => .ok (.all [])
    | j => .error (.malformed j)

/-- How deep a contract may nest. -/
def maxNesting : Nat := 64

/-- Reads a contract. -/
def ofJson (j : Json) : Except Fault Contract := ofJsonWithin j maxNesting j

end Contract

end RecordGate.Json
