import RecordGate.Record
import RecordGate.Rule.Basic

/-!
# The store of rules

Rules by id. A rule put in takes the place of one with the same id; the rules of a record type come out
in the order of their ids.
-/

namespace RecordGate

/-- The stored rules, by id. -/
structure Repository where
  rules : Record Rule

namespace Repository

def empty : Repository := ⟨.empty⟩

instance : Inhabited Repository := ⟨empty⟩

/-- Puts a rule in. -/
def upsert (s : Repository) (r : Rule) : Repository := ⟨s.rules.set r.id r⟩

/-- The store of a list of rules; of rules with one id the last stays. -/
def ofRules (rules : List Rule) : Repository := rules.foldl upsert empty

def get? (s : Repository) (id : String) : Option Rule := s.rules.get? id

/-- Takes a rule out. -/
def remove (s : Repository) (id : String) : Repository := ⟨s.rules.erase id⟩

/-- The rules of a record type, in the order of their ids. -/
def rulesFor (s : Repository) (t : RecordType) : List Rule := s.rules.values.filter (·.recordType = t)

/-- The revision of a rule, if it is stored. -/
def revision? (s : Repository) (id : String) : Option RuleVersion := (s.get? id).map Rule.revision

/-- All rules, by record type and then by id. -/
def ruleSet (s : Repository) : RuleSet := .ofRules (RecordType.all.flatMap s.rulesFor)

end Repository

end RecordGate
