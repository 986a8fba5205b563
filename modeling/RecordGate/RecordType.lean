import RecordGate.Text.Blank
import RecordGate.Text.Lowercase

/-!
# Record types

The categories of data that can be delivered. Each has a key, a prefix under which its files arrive and
a table for its accepted rows.
-/

namespace RecordGate

/-- A category of data. -/
inductive RecordType where
  | sales
  | inventory
  | expense
deriving DecidableEq

namespace RecordType

/-- All record types, in the order in which a source is compared with their prefixes. -/
def all : List RecordType := [sales, inventory, expense]

/-- The name in documents and messages. -/
def key : RecordType → String
  | .sales => "SALES"
  | .inventory => "INVENTORY"
  | .expense => "EXPENSE"

/-- The name in tables. -/
def displayName : RecordType → String
  | .sales => "sales"
  | .inventory => "inventory"
  | .expense => "expense"

/-- The table for accepted rows. -/
def table (t : RecordType) : String := t.displayName ++ "_reports"

/-- What the source of every file of this type contains. -/
def sourceFolder : RecordType → String
  | .sales => "Reports/Sales/"
  | .inventory => "Reports/Inventory/"
  | .expense => "Reports/Expense/"

/-- Whether the second list stands somewhere in the first. -/
def containsChars : List Char → List Char → Bool
  | [], part => part.isEmpty
  | c :: rest, part => part.isPrefixOf (c :: rest) || containsChars rest part

/-- The record type of a source. -/
def ofSource? (source : String) : Option RecordType :=
  all.find? fun t => containsChars source.toList t.sourceFolder.toList

/-- The record type of a key as documents spell it. -/
def ofKey? (key : String) : Option RecordType := all.find? (·.key == key)

/-- The record type of a name in any case, with blanks around it. -/
def ofName? (name : String) : Option RecordType := ofKey? (Text.uppercaseAscii (Text.trim name))

end RecordType

end RecordGate
