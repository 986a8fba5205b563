import RecordGate.Expr.Shape
import RecordGate.RecordType

/-!
# Rules

A rule is a predicate that the rows of a record type have to satisfy, with the severity of a violation
and a template for its message. Its revision is told apart by a version number and a time.

Main definitions: `Rule`, `RuleVersion`, `RuleSet`.
-/

namespace RecordGate

/-- What tells the revisions of a rule apart. -/
structure RuleVersion where
  version : Nat
  updatedAt : String
deriving DecidableEq

/-- A rule as it is stored. -/
structure Rule where
  id : String
  recordType : RecordType
  ruleType : RuleType
  expression : String
  severity : Severity
  template : String
  active : Bool
  version : Nat
  updatedAt : String
  name : Option String
  description : Option String
deriving DecidableEq

/-- The revision of a rule. -/
def Rule.revision (r : Rule) : RuleVersion := ⟨r.version, r.updatedAt⟩

/-- A document of rules. -/
structure RuleSet where
  contract : String
  rules : List Rule
deriving DecidableEq

namespace RuleSet

/-- The only supported version of the document's form. -/
def supportedContract : String := "0.1"

def ofRules (rules : List Rule) : RuleSet := ⟨supportedContract, rules⟩

end RuleSet

end RecordGate
