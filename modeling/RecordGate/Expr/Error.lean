import RecordGate.Expr.Shape

/-!
# Faults of expressions

Why an expression cannot be compiled, and why a compiled one cannot be evaluated on a row. Both are
inductive types of causes; their wording is in `CompileError.message` and `EvalError.message`.
-/

namespace RecordGate

/-- The static type of an expression. -/
inductive ExprType where
  | boolean
  | number
  | text
  | temporal
  | null
deriving DecidableEq

def ExprType.name : ExprType → String
  | .boolean => "boolean"
  | .number => "number"
  | .text => "text"
  | .temporal => "date"
  | .null => "null"

/-- What is applied to operands. -/
inductive Operation where
  | unary (op : UnaryOp)
  | binary (op : BinaryOp)
  | call (f : Function)
  /-- A call that lacks an argument. -/
  | application
deriving DecidableEq

def Operation.label : Operation → String
  | .unary .not => "NOT"
  | .unary .neg => "unary `-`"
  | .binary op => op.symbol
  | .call f => f.name ++ "()"
  | .application => "function call"

/-- What should have stood where something else was found. -/
inductive Expectation where
  | equality
  | inequality
  | token
  | operand
  | closing
  | argumentEnd
  | endOfExpression
deriving DecidableEq

def Expectation.text : Expectation → String
  | .equality => "`==` for equality"
  | .inequality => "`!=` or the NOT keyword"
  | .token => "field, literal, function or operator"
  | .operand => "field, literal, function call or `(`"
  | .closing => "`)`"
  | .argumentEnd => "`,` or `)` after argument"
  | .endOfExpression => "end of expression"

/-- What is wrong with the types of an expression. -/
inductive TypeFault where
  | operand (operation : Operation) (expected found : ExprType)
  | uniqueArgument
  | orderedNull (op : BinaryOp)
  | notDateLiteral
  | badDateLiteral (text : String)
  | incomparable (left : ExprType) (op : BinaryOp) (right : ExprType)
  | orderedBooleans (op : BinaryOp)
deriving DecidableEq

def TypeFault.message : TypeFault → String
  | .operand operation expected found => s!"{operation.label} expects {expected.name}, found {found.name}"
  | .uniqueArgument => "unique() arguments must be field references"
  | .orderedNull op => s!"NULL can only be compared with == or !=, found {op.symbol}"
  | .notDateLiteral => "dates can only be compared with dates or date literals"
  | .badDateLiteral text => s!"'{text}' is not a date literal"
  | .incomparable left op right => s!"cannot compare {left.name} {op.symbol} {right.name}"
  | .orderedBooleans op => s!"booleans only support == and !=, found {op.symbol}"

/-- Why an expression cannot be compiled. Positions are byte offsets. -/
inductive CompileError where
  | emptyExpression
  | tooLarge (limit size : Nat)
  | tooNested (limit pos : Nat)
  | unexpected (expected : Expectation) (found : String) (pos : Nat)
  | unterminated (pos : Nat)
  | invalidNumber (raw : String) (pos : Nat)
  | unknownField (name : String) (pos : Nat)
  | unknownFunction (name : String) (pos : Nat)
  | arity (f : Function) (found : Nat)
  | type (fault : TypeFault) (pos : Nat)
  | notBoolean (found : ExprType)
  | shape (t : RuleType)
deriving DecidableEq

def CompileError.message : CompileError → String
  | .emptyExpression => "expression is empty"
  | .tooLarge limit size => s!"expression exceeds {limit} bytes ({size})"
  | .tooNested limit pos => s!"expression nesting exceeds depth {limit} at {pos}"
  | .unexpected expected found pos => s!"unexpected `{found}` at {pos}, expected {expected.text}"
  | .unterminated pos => s!"unterminated string literal at {pos}"
  | .invalidNumber raw pos => s!"invalid number `{raw}` at {pos}"
  | .unknownField name pos => s!"unknown field `{name}` at {pos}"
  | .unknownFunction name pos => s!"unknown function `{name}` at {pos}"
  | .arity f found => s!"{f.name}() expects {f.arityLabel} argument(s), found {found}"
  | .type fault pos => s!"type error at {pos}: {fault.message}"
  | .notBoolean found => s!"expression must produce a boolean, found {found.name}"
  | .shape t => s!"{t.name} rule {t.demand}"

/-- Why a compiled expression has no value on a row. -/
inductive EvalError where
  | missingField (name : String)
  | nullOperand (operation : Operation)
  | typeMismatch (operation : Operation) (left right : Value.Kind)
  | divisionByZero
  | overflow (op : BinaryOp)
  | notBoolean (found : Value.Kind)
deriving DecidableEq

def EvalError.message : EvalError → String
  | .missingField name => s!"field `{name}` is missing from the row"
  | .nullOperand operation => s!"null operand in {operation.label}"
  | .typeMismatch operation left right => s!"cannot apply {operation.label} to {left.name} and {right.name}"
  | .divisionByZero => "division by zero"
  | .overflow op => s!"numeric overflow in {op.symbol}"
  | .notBoolean found => s!"predicate produced {found.name} instead of a boolean"

end RecordGate
