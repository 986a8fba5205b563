import RecordGate.Json.Document
import RecordGate.Rule.Basic

/-!
# Rules as JSON

The document form of rules and of sets of rules, both ways.

Main definitions: `Rule.toJson`, `Rule.read`, `RuleSet.toJson`, `RuleSet.read`.
-/

namespace RecordGate

namespace Rule

/-- The members of a rule in the order of declaration. -/
def memberNames : List String :=
  ["rule_id", "record_type", "rule_type", "expression", "severity", "error_message", "active", "version",
    "updated_at", "rule_name", "description"]

def readRecordType : Json → Except Json.Refusal RecordType := Json.readName RecordType.all RecordType.key

def readRuleType : Json → Except Json.Refusal RuleType := Json.readName RuleType.all RuleType.name

def readSeverity : Json → Except Json.Refusal Severity :=
  Json.readName [Severity.critical, .warning, .info] Severity.name

/-- Whether a member is well-formed. -/
def checkMember (name : String) (j : Json) : Except Json.Refusal Unit :=
  if name == "record_type" then (readRecordType j).map fun _ => ()
  else if name == "rule_type" then (readRuleType j).map fun _ => ()
  else if name == "severity" then (readSeverity j).map fun _ => ()
  else if name == "active" then (Json.readBool j).map fun _ => ()
  else if name == "version" then (Json.readNat j).map fun _ => ()
  else if name == "rule_name" || name == "description" then (Json.readOption Json.readString j).map fun _ => ()
  else (Json.readString j).map fun _ => ()

/-- Reads a rule. -/
def read (j : Json) : Except Json.Refusal Rule := do
  let m ← Json.Members.read "Rule" memberNames checkMember j
  let id ← m.required "rule_id" Json.readString
  let recordType ← m.required "record_type" readRecordType
  let ruleType ← m.required "rule_type" readRuleType
  let expression ← m.required "expression" Json.readString
  let severity ← m.required "severity" readSeverity
  let template ← m.defaulted "error_message" "" Json.readString
  let active ← m.defaulted "active" true Json.readBool
  let version ← m.defaulted "version" 0 Json.readNat
  let updatedAt ← m.defaulted "updated_at" "" Json.readString
  let name ← m.defaulted "rule_name" none (Json.readOption Json.readString)
  let description ← m.defaulted "description" none (Json.readOption Json.readString)
  return ⟨id, recordType, ruleType, expression, severity, template, active, version, updatedAt, name, description⟩

/-- The document form; a name or a description stands only where there is one. -/
def toJson (r : Rule) : Json :=
  .obj ([("rule_id", .str r.id), ("record_type", .str r.recordType.key),
    ("rule_type", .str r.ruleType.name), ("expression", .str r.expression),
    ("severity", .str r.severity.name), ("error_message", .str r.template), ("active", .bool r.active),
    ("version", .ofNat r.version), ("updated_at", .str r.updatedAt)] ++
    Json.member? "rule_name" (r.name.map .str) ++ Json.member? "description" (r.description.map .str))

end Rule

def RuleVersion.toJson (v : RuleVersion) : Json :=
  .obj [("version", .ofNat v.version), ("updated_at", .str v.updatedAt)]

namespace RuleSet

def readRules : Json → Except Json.Refusal (List Rule) := Json.readList Rule.read

/-- Whether a member is well-formed. -/
def checkMember (name : String) (j : Json) : Except Json.Refusal Unit :=
  if name == "rules" then (readRules j).map fun _ => () else (Json.readString j).map fun _ => ()

/-- Reads a set of rules. -/
def read (j : Json) : Except Json.Refusal RuleSet := do
  let m ← Json.Members.read "RuleSet" ["rule_set_version", "rules"] checkMember j
  let contract ← m.defaulted "rule_set_version" supportedContract Json.readString
  let rules ← m.required "rules" readRules
  return ⟨contract, rules⟩

def toJson (s : RuleSet) : Json :=
  .obj [("rule_set_version", .str s.contract), ("rules", .arr (s.rules.map Rule.toJson))]

end RuleSet

end RecordGate
