import RecordGate.Expr.Lexer

/-!
# The grammar of expressions

    or         = and (OR and)*
    and        = not (AND not)*
    not        = NOT not | comparison
    comparison = sum (comparator sum)?
    sum        = product (('+' | '-') product)*
    product    = unary (('*' | '/') unary)*
    unary      = '-' unary | primary
    primary    = literal | field | call | '(' or ')'
    call       = name '(' (or (',' or)*)? ')'

Chains lean to the left. A sign before a number belongs to the number. At most 32 parentheses, calls,
signs and NOTs may be open at a time, and no tree of binary operators may be higher than 128.

The recursion is on the nesting that is left: `levels n` are the readers that may open `n` more
constructs, and each is built from the readers of `levels (n - 1)` (`levelsOver`).
-/

namespace RecordGate

/-- How many constructs may be open at a time. -/
def maxNesting : Nat := 32

/-- The greatest height of a binary node. -/
def maxDepth : Nat := 128

/-- The tokens that are left, and the number of calls read so far. -/
structure ParseState where
  rest : List Lexeme
  calls : Nat

/-- A reader of tokens. -/
abbrev Parser := StateT ParseState (Except CompileError)

namespace Parser

/-- The next token. -/
def current : Parser Lexeme := do
  return (← get).rest.headD ⟨.eof, 0⟩

/-- Drops the next token. -/
def advance : Parser Unit := modify fun s => { s with rest := s.rest.tail }

/-- Refuses the next token. -/
def refuse {α : Type} (expected : Expectation) : Parser α := do
  let t ← current
  throw (.unexpected expected t.token.describe t.pos)

/-- Takes the given token. -/
def expect (token : Token) (expected : Expectation) : Parser Unit := do
  if (← current).token = token then advance else refuse expected

/-- The height of a binary node over trees of the given height, unless it is too high. -/
def joinedDepth (left : Nat) (right : Expr) (pos : Nat) : Parser Nat :=
  let depth := 1 + max left right.depth
  if depth > maxDepth then throw (.tooNested maxDepth pos) else pure depth

/-- Goes on with a chain of operators whose left part has been read. -/
def chainFrom (accepts : BinaryOp → Bool) (operand : Parser Expr) :
    (fuel : Nat) → (left : Expr) → (depth : Nat) → Parser Expr
  | 0, left, _ => pure left
  | fuel + 1, left, depth => do
    match (← current) with
    | ⟨.op o, pos⟩ =>
      if accepts o then
        advance
        let right ← operand
        let depth ← joinedDepth depth right pos
        chainFrom accepts operand fuel (.binary o left right pos) depth
      else pure left
    | _ => pure left

/-- A chain of operators, leaning to the left. It cannot have more links than there are tokens. -/
def chain (accepts : BinaryOp → Bool) (operand : Parser Expr) : Parser Expr := do
  let left ← operand
  chainFrom accepts operand (← get).rest.length left left.depth

/-- One comparison, or none. -/
def comparison (operand : Parser Expr) : Parser Expr := do
  let left ← operand
  match (← current) with
  | ⟨.op o, pos⟩ =>
    if o.isComparison then
      advance
      let right ← operand
      let _ ← joinedDepth left.depth right pos
      return .binary o left right pos
    else return left
  | _ => return left

/-- The number of a literal. A point at the front stands after a zero. -/
def numberOf (raw : String) (pos : Nat) : Parser Expr :=
  let digits := match raw.toList with
    | '.' :: rest => '0' :: '.' :: rest
    | cs => cs
  match Decimal.ofPlain? digits with
  | some d => pure (.literal (.number d))
  | none => throw (.invalidNumber raw pos)

/-- Further arguments of a call, up to its closing parenthesis; those so far in reverse. -/
def arguments (argument : Parser Expr) : (fuel : Nat) → (done : List Expr) → Parser (List Expr)
  | 0, _ => refuse .argumentEnd
  | fuel + 1, done => do
    let done := (← argument) :: done
    if (← current).token = .comma then
      advance
      arguments argument fuel done
    else
      expect .rparen .argumentEnd
      return done.reverse

/-- A call after its opening parenthesis. Calls are numbered as they close. -/
def callOf (argument : Parser Expr) (name : String) (pos : Nat) : Parser Expr := do
  match Function.ofName? name with
  | none => throw (.unknownFunction name pos)
  | some f =>
    let args ←
      if (← current).token = .rparen then do
        advance
        pure []
      else arguments argument (← get).rest.length []
    if !f.accepts args.length then throw (.arity f args.length)
    let site := (← get).calls
    modify fun s => { s with calls := s.calls + 1 }
    return .call f args site pos

/-- The readers that depend on how much more may be opened. -/
structure Levels where
  unary : Parser Expr
  negation : Parser Expr
  disjunction : Parser Expr

/-- Opens a construct, if one more may be open. -/
def enter {α : Type} (inner : Option Levels) (pos : Nat) (use : Levels → Parser α) : Parser α :=
  match inner with
  | some l => use l
  | none => throw (.tooNested maxNesting pos)

/-- A literal, a field, a call or a group. -/
def primary (inner : Option Levels) : Parser Expr := do
  let t ← current
  match t.token with
  | .number raw =>
    advance
    numberOf raw t.pos
  | .text s =>
    advance
    return .literal (.text s)
  | .truth b =>
    advance
    return .literal (.bool b)
  | .null =>
    advance
    return .literal .null
  | .ident name =>
    advance
    if (← current).token = .lparen then
      advance
      enter inner t.pos fun l => callOf l.disjunction name t.pos
    else return .field name t.pos
  | .lparen =>
    advance
    enter inner t.pos fun l => do
      let e ← l.disjunction
      expect .rparen .closing
      return e
  | _ => refuse .operand

/-- The negative of an expression; a number takes the sign. -/
def negated (e : Expr) (pos : Nat) : Expr :=
  match e with
  | .literal (.number d) => .literal (.number d.neg)
  | e => .unary .neg e pos

/-- A primary with signs before it. -/
def unary (inner : Option Levels) : Parser Expr := do
  let t ← current
  if t.token = .op .sub then
    advance
    return negated (← enter inner t.pos (·.unary)) t.pos
  else primary inner

def product (inner : Option Levels) : Parser Expr :=
  chain (fun o => o = .mul || o = .div) (unary inner)

def sum (inner : Option Levels) : Parser Expr :=
  chain (fun o => o = .add || o = .sub) (product inner)

/-- A comparison with NOTs before it. -/
def negation (inner : Option Levels) : Parser Expr := do
  let t ← current
  if t.token = .not then
    advance
    return .unary .not (← enter inner t.pos (·.negation)) t.pos
  else comparison (sum inner)

def conjunction (inner : Option Levels) : Parser Expr := chain (· = .and) (negation inner)

def disjunction (inner : Option Levels) : Parser Expr := chain (· = .or) (conjunction inner)

/-- The readers that open their constructs with the given ones. -/
def levelsOver (inner : Option Levels) : Levels := ⟨unary inner, negation inner, disjunction inner⟩

/-- The readers that may open `n` more constructs. -/
def levels : (n : Nat) → Levels
  | 0 => levelsOver none
  | n + 1 => levelsOver (some (levels n))

end Parser

/-- Reads an expression. -/
def parseExpr (expression : String) : Except CompileError Expr := do
  let tokens ← tokenize expression
  let parser : Parser Expr := do
    let e ← (Parser.levels maxNesting).disjunction
    Parser.expect .eof .endOfExpression
    return e
  parser.run' ⟨tokens, 0⟩

end RecordGate
