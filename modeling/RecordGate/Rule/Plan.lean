import RecordGate.Rule.Cache
import RecordGate.Rule.Fingerprint

/-!
# Rule plans

A plan holds the compiled rules of a file, grouped by severity and in the order of their ids, and what
was left out. On a row the critical rules come first: the first of them that fails ends the evaluation.
Otherwise every rule is evaluated, and a rule that cannot be evaluated gives a warning.

Main definitions: `RulePlan`, `RulePlan.build`, `RulePlan.evaluate`.
-/

namespace RecordGate

/-- Where a violation comes from. -/
inductive ViolationKind where
  /-- The predicate does not hold. -/
  | rule
  /-- The predicate could not be evaluated. -/
  | evaluationError
deriving DecidableEq

def ViolationKind.name : ViolationKind → String
  | .rule => "rule"
  | .evaluationError => "evaluation_error"

def ViolationKind.ofName? (s : String) : Option ViolationKind :=
  [ViolationKind.rule, .evaluationError].find? (·.name == s)

/-- A rule that a row does not satisfy. -/
structure Violation where
  row : Nat
  ruleId : String
  severity : Severity
  kind : ViolationKind
  message : String
deriving DecidableEq

/-- A rule that is left out for a whole file. -/
structure RuleWarning where
  ruleId : String
  code : String
  message : String
deriving DecidableEq

/-- The rules of a file. -/
structure RulePlan where
  recordType : RecordType
  critical : List CompiledRule
  warning : List CompiledRule
  info : List CompiledRule
  warnings : List RuleWarning
  /-- How many rules were left out as inactive. -/
  inactive : Nat
  fingerprint : String

namespace RulePlan

/-- A plan without rules. -/
def start (t : RecordType) (fingerprint : String) : RulePlan := ⟨t, [], [], [], [], 0, fingerprint⟩

/-- Adds a compiled rule to the group of its severity. -/
def add (p : RulePlan) (c : CompiledRule) : RulePlan :=
  match c.severity with
  | .critical => { p with critical := p.critical ++ [c] }
  | .warning => { p with warning := p.warning ++ [c] }
  | .info => { p with info := p.info ++ [c] }

def warn (p : RulePlan) (r : Rule) (code message : String) : RulePlan :=
  { p with warnings := p.warnings ++ [⟨r.id, code, message⟩] }

/-- What is said of a rule of another record type. -/
def mismatchMessage (r : Rule) (t : RecordType) : String :=
  s!"rule targets {r.recordType.key} but the file is {t.key}"

/-- Takes one rule into a plan. -/
def take (schema : Schema) (state : RulePlan × RuleCache) (r : Rule) : RulePlan × RuleCache :=
  let (p, cache) := state
  if r.recordType ≠ schema.recordType then
    (p.warn r "record_type_mismatch" (mismatchMessage r schema.recordType), cache)
  else
    match cache.lookup r schema with
    | (.ok (.compiled c), cache) => (p.add c, cache)
    | (.ok .inactive, cache) => ({ p with inactive := p.inactive + 1 }, cache)
    | (.error e, cache) => (p.warn r "compile_error" e.message, cache)

/-- Builds the plan of a list of rules, through the cache. -/
def build (rules : List Rule) (schema : Schema) (cache : RuleCache) : RulePlan × RuleCache :=
  (rules.mergeSort fun a b => a.id ≤ b.id).foldl (take schema)
    (start schema.recordType (RecordGate.fingerprint rules), cache)

/-- The rules in the order of evaluation. -/
def rules (p : RulePlan) : List CompiledRule := p.critical ++ p.warning ++ p.info

def size (p : RulePlan) : Nat := p.rules.length

/-- Whether some rule looks at earlier rows, so that rows have to be judged in order. -/
def isStateful (p : RulePlan) : Bool := p.rules.any (·.stateful)

/-- The violation of a rule that does not hold. -/
def broken (c : CompiledRule) (index : Nat) (row : Record Value) : Violation :=
  ⟨index, c.id, c.severity, .rule, c.message row⟩

/-- The violation of a rule that could not be evaluated. -/
def unevaluated (c : CompiledRule) (index : Nat) (e : EvalError) : Violation :=
  ⟨index, c.id, .warning, .evaluationError, s!"rule {c.id} could not be evaluated: {e.message}"⟩

/-- Evaluates every rule and collects the violations. -/
def evaluateAll (index : Nat) (row : Record Value) :
    List CompiledRule → FileState → List Violation × FileState
  | [], file => ([], file)
  | c :: rest, file =>
    let (result, file) := c.judge row file
    let (later, file) := evaluateAll index row rest file
    match result with
    | .ok true => (later, file)
    | .ok false => (broken c index row :: later, file)
    | .error e => (unevaluated c index e :: later, file)

/-- Evaluates rules up to the first that does not hold, and then goes on with `next` if none fails. -/
def evaluateCritical (index : Nat) (row : Record Value) (next : FileState → List Violation × FileState) :
    List CompiledRule → FileState → List Violation × FileState
  | [], file => next file
  | c :: rest, file =>
    match c.judge row file with
    | (.ok false, file) => ([broken c index row], file)
    | (.ok true, file) => evaluateCritical index row next rest file
    | (.error e, file) =>
      let (later, file) := evaluateCritical index row next rest file
      (unevaluated c index e :: later, file)

/-- The violations of a row, and the state of the file after it. -/
def evaluate (p : RulePlan) (index : Nat) (row : Record Value) (file : FileState) : List Violation × FileState :=
  evaluateCritical index row (evaluateAll index row (p.warning ++ p.info)) p.critical file

end RulePlan

end RecordGate
