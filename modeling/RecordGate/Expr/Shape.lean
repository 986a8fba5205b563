import RecordGate.Expr.Basic

/-!
# Shapes of predicates

A rule declares how its predicate is built: bounds on single fields, one comparison at the top, or any
predicate at all.
-/

namespace RecordGate

/-- The declared shape of a rule. -/
inductive RuleType where
  /-- Fields or results of functions against literal bounds. -/
  | range
  /-- A comparison of computed operands. -/
  | comparison
  /-- Any predicate. -/
  | business
deriving DecidableEq

namespace RuleType

def name : RuleType → String
  | .range => "RANGE"
  | .comparison => "COMPARISON"
  | .business => "BUSINESS"

def all : List RuleType := [range, comparison, business]

def ofName? (s : String) : Option RuleType := all.find? (·.name == s)

/-- What a predicate of another shape is told. -/
def demand : RuleType → String
  | .range => "must compare fields or function results against literals"
  | .comparison | .business => "must have a comparison at the top level"

end RuleType

namespace Expr

/-- A field or a call. -/
def isSubject : Expr → Bool
  | .field _ _ => true
  | .call _ _ _ _ => true
  | _ => false

/-- Comparisons of subjects with literals, joined by AND, OR and NOT. -/
def isRange : Expr → Bool
  | .binary op l r _ =>
    if op.isLogical then l.isRange && r.isRange
    else op.isComparison && ((l.isSubject && r.isLiteral) || (l.isLiteral && r.isSubject))
  | .unary .not e _ => e.isRange
  | _ => false

/-- A comparison at the top. -/
def isComparison : Expr → Bool
  | .binary op _ _ _ => op.isComparison
  | _ => false

/-- Whether the predicate has the declared shape. -/
def hasShape (e : Expr) : RuleType → Bool
  | .range => e.isRange
  | .comparison => e.isComparison
  | .business => true

end Expr

end RecordGate
