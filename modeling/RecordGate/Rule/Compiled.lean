import RecordGate.Expr.Evaluate
import RecordGate.Expr.Parser
import RecordGate.Expr.Typing
import RecordGate.Rule.Basic

/-!
# Compiled rules

A rule is compiled against a schema: its expression is read and typed, must be a truth value, and must
have the shape that the rule declares.

Main definitions: `CompiledRule`, `Rule.compile`, `CompiledRule.judge`, `CompiledRule.message`.
-/

namespace RecordGate

/-- A rule ready to be evaluated. -/
structure CompiledRule where
  id : String
  recordType : RecordType
  ruleType : RuleType
  severity : Severity
  expression : String
  template : String
  revision : RuleVersion
  /-- Whether the predicate looks at earlier rows of the file. -/
  stateful : Bool
  predicate : Expr

/-- Compiles a rule against the fields of a schema. -/
def Rule.compile (r : Rule) (schema : Schema) : Except CompileError CompiledRule := do
  let typed ← (← parseExpr r.expression).typed schema
  if typed.type ≠ .boolean then .error (.notBoolean typed.type)
  else if !typed.expr.hasShape r.ruleType then .error (.shape r.ruleType)
  else
    .ok ⟨r.id, r.recordType, r.ruleType, r.severity, r.expression, r.template, r.revision,
      typed.expr.isStateful, typed.expr⟩

namespace CompiledRule

/-- Whether the rule was compiled from this revision and this expression. -/
def isOf (c : CompiledRule) (r : Rule) : Bool := c.revision = r.revision && c.expression = r.expression

/-- Whether a row satisfies the rule. -/
def judge (c : CompiledRule) (row : Record Value) (file : FileState) : Except EvalError Bool × FileState :=
  c.predicate.holds c.id row file

/--
Fills in a template. What stands in braces is replaced if, trimmed, it is `rule_id` or a field of the
row; anything else stays as it is, and so does what follows a brace that is not closed. `fuel` is at
least the number of characters.
-/
def fill (ruleId : String) (row : Record Value) : (fuel : Nat) → List Char → List Char
  | 0, cs => cs
  | fuel + 1, cs =>
    match cs.span (· != '{') with
    | (text, []) => text
    | (text, opening :: after) =>
      match after.span (· != '}') with
      | (_, []) => text ++ opening :: after
      | (inner, closing :: rest) =>
        let key := Text.trim (String.ofList inner)
        let filled : List Char :=
          if key == "rule_id" then ruleId.toList
          else
            match row.get? key with
            | some v => v.display.toList
            | none => opening :: inner ++ [closing]
        text ++ filled ++ fill ruleId row fuel rest

/-- The message of a violation on a row. -/
def message (c : CompiledRule) (row : Record Value) : String :=
  let template := Text.trimChars c.template.toList
  if template.isEmpty then s!"rule {c.id} failed: {c.expression}"
  else String.ofList (fill c.id row template.length template)

end CompiledRule

end RecordGate
