import RecordGate.Json.Contract
import RecordGate.Rule.Basic

/-!
# The contract of rule documents

The JSON contract that a document of rules has to satisfy before it is read.
-/

namespace RecordGate.RuleSet

private def strings (xs : List String) : Json := .arr (xs.map .str)

private def definition (name : String) : Json := .obj [("$ref", .str ("#/definitions/" ++ name))]

private def typed (type : String) : String × Json := ("type", .str type)

private def text : Json := .obj [typed "string"]

private def optionalText : Json := .obj [("type", strings ["string", "null"])]

private def described (description : String) (members : List (String × Json)) : Json :=
  .obj (("description", .str description) :: members)

private def emptyByDefault : List (String × Json) := [("default", .str ""), typed "string"]

private def oneOfNames (description : String) (names : List String) : Json :=
  described description [typed "string", ("enum", strings names)]

/-- The name of the contract's vocabulary. -/
private def vocabulary : String :=
  "/".intercalate ["http:", "", "json-schema.org", "draft-07", "schema#"]

private def recordTypeContract : Json :=
  oneOfNames ("Category of incoming data. Each variant owns a field schema, a rule-set key and a warehouse " ++
      "target table.") ["SALES", "INVENTORY", "EXPENSE"]

private def severityContract : Json :=
  oneOfNames ("Severity attached to field errors and rule violations.\n\nDeclaration order is evaluation " ++
      "order: CRITICAL sorts before WARNING, WARNING before INFO.") ["CRITICAL", "WARNING", "INFO"]

private def ruleTypeContract : Json :=
  described "How a rule expression is shaped." [("oneOf", .arr [
    oneOfNames "A field or function result compared against literal bounds." ["RANGE"],
    oneOfNames "A comparison between computed operands, e.g. `total == qty * price`." ["COMPARISON"],
    oneOfNames "Any boolean expression." ["BUSINESS"]])]

private def ruleContract : Json :=
  described "A business rule as stored in the rule repository." [
    typed "object",
    ("required", strings ["expression", "record_type", "rule_id", "rule_type", "severity"]),
    ("properties", .obj [
      ("active", .obj [("default", .bool true), typed "boolean"]),
      ("description", optionalText),
      ("error_message",
        described "Message template; `\x7bfield\x7d` and `\x7brule_id\x7d` placeholders are rendered."
          emptyByDefault),
      ("expression", described "Predicate that must hold for a valid row." [typed "string"]),
      ("record_type", definition "RecordType"),
      ("rule_id", text),
      ("rule_name", optionalText),
      ("rule_type", definition "RuleType"),
      ("severity", definition "Severity"),
      ("updated_at", .obj emptyByDefault),
      ("version", .obj [("default", .ofNat 0), typed "integer", ("format", .str "uint64"),
        ("minimum", .num (.float .zero))])])]

/-- The contract of a document of rules. -/
def contractJson : Json :=
  .obj [
    ("$schema", .str vocabulary),
    ("title", .str "RuleSet"),
    ("description", .str "Rule document as stored on disk (`rules.json`)."),
    typed "object",
    ("required", strings ["rules"]),
    ("properties", .obj [
      ("rule_set_version",
        described "Rule document contract version." [("default", .str "0.1"), typed "string"]),
      ("rules", .obj [typed "array", ("items", definition "Rule")])]),
    ("definitions", .obj [("RecordType", recordTypeContract), ("Rule", ruleContract),
      ("RuleType", ruleTypeContract), ("Severity", severityContract)])]

end RecordGate.RuleSet
