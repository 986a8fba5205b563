import RecordGate.Value
import Std.Data.HashSet

/-!
# The state of a file

What the rows of one file share while they are judged: the processing date, and the keys of the tuples
that `unique` has met. A key names the rule, the call within it and the values, with a separator that
is escaped inside each part; null has a mark that no escaped text can be.

Main definitions: `FileState`, `FileState.record`, `FileState.key`.
-/

namespace RecordGate

/-- The processing date and the keys met so far. -/
structure FileState where
  asOf : Date
  seen : Std.HashSet String

namespace FileState

/-- The state before the first row. -/
def start (asOf : Date) : FileState := ⟨asOf, ∅⟩

/-- Puts a backslash before each backslash and each bar. -/
def escapeChars : List Char → List Char
  | [] => []
  | c :: rest => if c == '\\' || c == '|' then '\\' :: c :: escapeChars rest else c :: escapeChars rest

/-- The part of a key that stands for one value. -/
def component : Value → List Char
  | .null => ['\\', 'N']
  | v => escapeChars v.written.toList

/-- The part of a key that stands for a tuple: its components with bars between. -/
def tupleChars : List Value → List Char
  | [] => []
  | [v] => component v
  | v :: rest => component v ++ '|' :: tupleChars rest

/-- The key of a tuple of values at one call of a rule. -/
def key (ruleId : String) (site : Nat) (values : List Value) : String :=
  String.ofList (escapeChars ruleId.toList ++ '|' :: Nat.toDigits 10 site ++ '|' :: tupleChars values)

/-- Adds a tuple. The answer tells whether it is new. -/
def record (s : FileState) (ruleId : String) (site : Nat) (values : List Value) : Bool × FileState :=
  let k := key ruleId site values
  (!s.seen.contains k, { s with seen := s.seen.insert k })

/-- The number of keys met. -/
def seenCount (s : FileState) : Nat := s.seen.size

end FileState

end RecordGate
