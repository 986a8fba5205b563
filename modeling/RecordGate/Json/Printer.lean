import RecordGate.Json.Basic

/-!
# Writing JSON

The compact form has no blanks. The pretty form indents by two spaces and keeps empty containers on one
line. Strings escape quotes, backslashes and control characters, and nothing else.

Main definitions: `Json.compact`, `Json.pretty`, `Json.quoted`.
-/

namespace RecordGate.Json

/-- A hexadecimal digit in lower case. -/
def hexChar (n : Nat) : Char := Nat.digitChar (n % 16)

/-- The characters that stand for one character in a string. -/
def escapeChar (c : Char) : List Char :=
  let n := c.toNat
  if c == '"' then ['\\', '"']
  else if c == '\\' then ['\\', '\\']
  else if n == 0x08 then ['\\', 'b']
  else if n == 0x09 then ['\\', 't']
  else if n == 0x0A then ['\\', 'n']
  else if n == 0x0C then ['\\', 'f']
  else if n == 0x0D then ['\\', 'r']
  else if n < 0x20 then ['\\', 'u', '0', '0', hexChar (n / 16), hexChar n]
  else [c]

/-- A string with its quotes. -/
def quoted (s : String) : String :=
  String.ofList ('"' :: s.toList.flatMap escapeChar ++ ['"'])

instance : ToString Number where
  toString
    | .whole n => toString n
    | .float x => toString x

mutual

/-- The form without blanks. -/
def compact : Json → String
  | .null => "null"
  | .bool b => if b then "true" else "false"
  | .num n => toString n
  | .str s => quoted s
  | .arr items => "[" ++ ",".intercalate (compactItems items) ++ "]"
  | .obj members => "\x7b" ++ ",".intercalate (compactMembers members) ++ "\x7d"

/-- The items, each in the form without blanks. -/
def compactItems : List Json → List String
  | [] => []
  | item :: rest => compact item :: compactItems rest

/-- The members, each as name, colon and value. -/
def compactMembers : List (String × Json) → List String
  | [] => []
  | (name, value) :: rest => (quoted name ++ ":" ++ compact value) :: compactMembers rest

end

/-- A line break and two spaces for each level. -/
def newline (level : Nat) : String := "\n" ++ String.ofList (List.replicate (2 * level) ' ')

mutual

/-- The form with line breaks, at a level of nesting. -/
def prettyAt (level : Nat) : Json → String
  | .null => "null"
  | .bool b => if b then "true" else "false"
  | .num n => toString n
  | .str s => quoted s
  | .arr [] => "[]"
  | .arr (item :: items) =>
    "[" ++ ",".intercalate (prettyItems (level + 1) (item :: items)) ++ newline level ++ "]"
  | .obj [] => "\x7b\x7d"
  | .obj (member :: members) =>
    "\x7b" ++ ",".intercalate (prettyMembers (level + 1) (member :: members)) ++ newline level ++ "\x7d"

/-- The items, each on lines of its own. -/
def prettyItems (level : Nat) : List Json → List String
  | [] => []
  | item :: rest => (newline level ++ prettyAt level item) :: prettyItems level rest

/-- The members, each on lines of its own. -/
def prettyMembers (level : Nat) : List (String × Json) → List String
  | [] => []
  | (name, value) :: rest =>
    (newline level ++ quoted name ++ ": " ++ prettyAt level value) :: prettyMembers level rest

end

/-- The form with line breaks. -/
def pretty (j : Json) : String := prettyAt 0 j

end RecordGate.Json
