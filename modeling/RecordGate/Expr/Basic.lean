import RecordGate.Value

/-!
# Expressions

The predicates of rules: literals, fields, operators and calls of a fixed set of functions. Every node
but a literal knows its position, a byte offset in the written expression, and every call has a number
of its own within the expression.

Main definitions: `Expr`, `Expr.depth`, `Expr.fields`, `Expr.isStateful`.
-/

namespace RecordGate

/-- A function that expressions can call. -/
inductive Function where
  /-- The processing date of the file. -/
  | today
  | len
  | startsWith
  /-- Whether a tuple of values is new in the file. -/
  | unique
  | abs
deriving DecidableEq

namespace Function

def name : Function → String
  | .today => "today"
  | .len => "len"
  | .startsWith => "startswith"
  | .unique => "unique"
  | .abs => "abs"

def all : List Function := [today, len, startsWith, unique, abs]

def ofName? (s : String) : Option Function := all.find? (·.name == s)

/-- The least number of arguments. -/
def minArity : Function → Nat
  | .today => 0
  | .len | .abs | .unique => 1
  | .startsWith => 2

/-- The greatest number of arguments, if there is one. -/
def maxArity : Function → Option Nat
  | .today => some 0
  | .len | .abs => some 1
  | .startsWith => some 2
  | .unique => none

/-- Whether a call can have so many arguments. -/
def accepts (f : Function) (count : Nat) : Bool := f.minArity ≤ count && f.maxArity.all (count ≤ ·)

/-- The number of arguments in words. -/
def arityLabel : Function → String
  | .today => "0"
  | .len | .abs => "1"
  | .startsWith => "2"
  | .unique => "at least 1"

end Function

/-- An operator before its operand. -/
inductive UnaryOp where
  | not
  | neg
deriving DecidableEq

/-- An operator between two operands. -/
inductive BinaryOp where
  | and
  | or
  | eq
  | ne
  | lt
  | gt
  | le
  | ge
  | add
  | sub
  | mul
  | div
deriving DecidableEq

namespace BinaryOp

def symbol : BinaryOp → String
  | .and => "AND"
  | .or => "OR"
  | .eq => "=="
  | .ne => "!="
  | .lt => "<"
  | .gt => ">"
  | .le => "<="
  | .ge => ">="
  | .add => "+"
  | .sub => "-"
  | .mul => "*"
  | .div => "/"

def isLogical : BinaryOp → Bool
  | .and | .or => true
  | _ => false

def isComparison : BinaryOp → Bool
  | .eq | .ne | .lt | .gt | .le | .ge => true
  | _ => false

def isArithmetic : BinaryOp → Bool
  | .add | .sub | .mul | .div => true
  | _ => false

def isEquality : BinaryOp → Bool
  | .eq | .ne => true
  | _ => false

end BinaryOp

/-- An expression. -/
inductive Expr where
  | literal (v : Value)
  | field (name : String) (pos : Nat)
  | unary (op : UnaryOp) (e : Expr) (pos : Nat)
  | binary (op : BinaryOp) (left right : Expr) (pos : Nat)
  /-- A call; `site` tells it from the other calls of the expression. -/
  | call (f : Function) (args : List Expr) (site pos : Nat)

namespace Expr

instance : Inhabited Expr := ⟨.literal .null⟩

/-- A literal, with any number of signs before it. -/
def isLiteral : Expr → Bool
  | .literal _ => true
  | .unary .neg e _ => e.isLiteral
  | _ => false

mutual

/-- Whether evaluation looks at what earlier rows of the file held. -/
def isStateful : Expr → Bool
  | .literal _ => false
  | .field _ _ => false
  | .unary _ e _ => e.isStateful
  | .binary _ l r _ => l.isStateful || r.isStateful
  | .call f args _ _ => f == .unique || anyStateful args

/-- Whether one of several expressions is stateful. -/
def anyStateful : List Expr → Bool
  | [] => false
  | e :: rest => e.isStateful || anyStateful rest

end

mutual

/-- The names that stand in the expression, after those found before; each name once. -/
def addFields (found : List String) : Expr → List String
  | .literal _ => found
  | .field name _ => if found.contains name then found else found ++ [name]
  | .unary _ e _ => e.addFields found
  | .binary _ l r _ => r.addFields (l.addFields found)
  | .call _ args _ _ => addFieldsOf found args

/-- The names that stand in several expressions. -/
def addFieldsOf (found : List String) : List Expr → List String
  | [] => found
  | e :: rest => addFieldsOf (e.addFields found) rest

end

/-- The fields that the expression refers to, in the order of first mention. -/
def fields (e : Expr) : List String := e.addFields []

mutual

/-- The height of the tree; a literal or a field has height 1. -/
def depth : Expr → Nat
  | .literal _ => 1
  | .field _ _ => 1
  | .unary _ e _ => 1 + e.depth
  | .binary _ l r _ => 1 + max l.depth r.depth
  | .call _ args _ _ => 1 + depthOf args

/-- The greatest height of several expressions. -/
def depthOf : List Expr → Nat
  | [] => 0
  | e :: rest => max e.depth (depthOf rest)

end

/-- Where the expression stands; a literal has no position of its own. -/
def position : Expr → Nat
  | .literal _ => 0
  | .field _ pos => pos
  | .unary _ _ pos => pos
  | .binary _ _ _ pos => pos
  | .call _ _ _ pos => pos

end Expr

end RecordGate
