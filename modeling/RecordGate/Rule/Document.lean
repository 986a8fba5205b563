import RecordGate.Json.Reader
import RecordGate.Rule.Compiled
import RecordGate.Rule.Contract
import RecordGate.Rule.Json
import RecordGate.Rule.Repository

/-!
# Checking rule documents

A document of rules is checked in three steps: against its contract, while it is read, and for what a
contract cannot say: the version of the form, ids that are blank or used twice, and blank expressions.
Only a document without errors gives rules.

Main definitions: `RuleSet.validate`, `RuleSet.load`, `checkRules`.
-/

namespace RecordGate

/-- A finding about a document. -/
structure Issue where
  isError : Bool
  code : String
  path : String
  message : String
  hint : Option String
deriving DecidableEq

/-- The document form; a hint stands only where there is one. -/
def Issue.toJson (i : Issue) : Json :=
  .obj ([("severity", .str (if i.isError then "error" else "warning")), ("code", .str i.code),
    ("path", .str i.path), ("message", .str i.message)] ++ Json.member? "hint" (i.hint.map .str))

/-- The findings about a document. -/
structure Report where
  errors : List Issue
  warnings : List Issue
deriving DecidableEq

namespace Report

def empty : Report := ⟨[], []⟩

def toJson (r : Report) : Json :=
  .obj [("errors", .arr (r.errors.map Issue.toJson)), ("warnings", .arr (r.warnings.map Issue.toJson))]

def isOk (r : Report) : Bool := r.errors.isEmpty

/-- A report of one error. -/
def single (code path message : String) : Report := ⟨[⟨true, code, path, message, none⟩], []⟩

def append (r s : Report) : Report := ⟨r.errors ++ s.errors, r.warnings ++ s.warnings⟩

instance : Append Report := ⟨append⟩

/-- The reports of several parts, in order. -/
def join (rs : List Report) : Report := rs.foldr append empty

end Report

/-- A set of rules that passed its checks. -/
structure ValidRuleSet where
  ruleSet : RuleSet
  warnings : List Issue

namespace RuleSet

/-- The pointer to a part of a document. -/
def pointer (path : List String) : String :=
  if path.isEmpty then "/" else String.join (path.map ("/" ++ ·))

/-- What a document breaks of a contract. -/
def structuralReport (contract document : Json) : Except Json.Contract.Fault Report := do
  let c ← Json.Contract.ofJson contract
  .ok ⟨(c.violations [] document).map fun v => ⟨true, "schema_violation", pointer v.path, v.message, none⟩, []⟩

/-- An issue about one member of the rule at a position. -/
private def ruleIssue (isError : Bool) (code : String) (position : Nat) (memberName message : String)
    (hint : Option String) : Issue :=
  ⟨isError, code, s!"/rules/{position}/{memberName}", message, hint⟩

/-- The findings about the rule at a position, given the ids before it. -/
def ruleReport (earlier : List String) (position : Nat) (r : Rule) : Report where
  errors :=
    (if Text.isBlankText r.id then
      [ruleIssue true "rule_id_empty" position "rule_id" "rule_id must not be empty" none]
    else if earlier.contains r.id then
      [ruleIssue true "duplicate_rule_id" position "rule_id" s!"rule_id '{r.id}' is defined more than once"
        (some "rule ids must be unique across the document")]
    else []) ++
    (if Text.isBlankText r.expression then
      [ruleIssue true "expression_empty" position "expression" "expression must not be empty" none]
    else [])
  warnings :=
    (if r.active then []
    else [ruleIssue false "rule_inactive" position "active" s!"rule '{r.id}' is inactive and will be skipped" none]) ++
    (if Text.isBlankText r.template then
      [ruleIssue false "error_message_missing" position "error_message"
        s!"rule '{r.id}' has no error_message template" (some "violations will use a generated message")]
    else [])

/-- The findings about rules from a position on, given the ids before them. -/
def rulesReport : (earlier : List String) → (position : Nat) → List Rule → Report
  | _, _, [] => .empty
  | earlier, position, r :: rest =>
    ruleReport earlier position r ++ rulesReport (r.id :: earlier) (position + 1) rest

/-- The findings about the version of the form. -/
def contractReport (s : RuleSet) : Report :=
  if s.contract = supportedContract then .empty
  else
    .single "rule_set_version_mismatch" "/rule_set_version"
      s!"rule_set_version '{s.contract}' is not supported (expected '{supportedContract}')"

/-- The findings about the content of a document. -/
def semanticReport (s : RuleSet) : Report := s.contractReport ++ rulesReport [] 0 s.rules

/-- Checks a document against a contract and reads it. -/
def validate (contract document : Json) : Except Report ValidRuleSet :=
  match structuralReport contract document with
  | .error fault => .error (.single "schema_validation_error" "/" ("schema error: " ++ fault.message))
  | .ok structural =>
    if !structural.isOk then .error structural
    else
      match read document with
      | .error refusal => .error (.single "invalid_rules_json" "/" refusal.message)
      | .ok s =>
        let report := s.semanticReport
        if report.isOk then .ok ⟨s, report.warnings⟩ else .error report

/-- Why a rule file could not be loaded. -/
inductive LoadError where
  /-- The file could not be read; the text is the system's. -/
  | unreadable (reason : String)
  | notJson (e : Json.ParseError)
  | rejected (r : Report)

def LoadError.message : LoadError → String
  | .unreadable reason => s!"io error: {reason}"
  | .notJson e => s!"json error: {e.message}"
  | .rejected r => s!"rule document rejected with {r.errors.length} error(s)"

/-- Loads the content of a rule file. -/
def load (content : Except String Bytes) : Except LoadError ValidRuleSet := do
  let bytes ← content.mapError .unreadable
  let text ← (Text.decode bytes).mapError fun _ => .unreadable "stream did not contain valid UTF-8"
  let document ← (Json.ofString text).mapError .notJson
  (validate contractJson document).mapError .rejected

end RuleSet

/-- What is wrong with one rule under a schema. Inactive rules are not compiled. -/
def checkRule (schema : Schema) (r : Rule) : Report :=
  if r.recordType ≠ schema.recordType then
    .single "record_type_mismatch" s!"/rules/{r.id}/record_type"
      s!"rule targets {r.recordType.key} but was checked against {schema.recordType.key}"
  else if !r.active then .empty
  else
    match r.compile schema with
    | .ok _ => .empty
    | .error e =>
      ⟨[⟨true, "compile_error", s!"/rules/{r.id}/expression", e.message, some s!"expression: {r.expression}"⟩], []⟩

/-- What is wrong with rules under a schema. -/
def checkRules (rules : List Rule) (schema : Schema) : Report := .join (rules.map (checkRule schema))

/-- A repository opened from a rule file, with the findings about the file. -/
structure RuleFile where
  store : Repository
  warnings : List Issue

/-- The repository of a file that passed its checks. -/
def RuleFile.of (v : ValidRuleSet) : RuleFile := ⟨.ofRules v.ruleSet.rules, v.warnings⟩

end RecordGate
