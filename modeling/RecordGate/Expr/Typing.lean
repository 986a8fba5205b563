import RecordGate.Expr.Error
import RecordGate.Schema.Basic

/-!
# Types of expressions

An expression is typed against the fields of a schema. A text literal that is compared with a date is
read as a date or a timestamp, so typing gives back the expression it typed.

Main definition: `Expr.typed`.
-/

namespace RecordGate

/-- The type of a field in expressions. -/
def FieldType.exprType : FieldType → ExprType
  | .text => .text
  | .integer | .decimal => .number
  | .boolean => .boolean
  | .date | .timestamp => .temporal

/-- The type of a literal. -/
def Value.exprType : Value → ExprType
  | .null => .null
  | .bool _ => .boolean
  | .number _ => .number
  | .text _ => .text
  | .date _ => .temporal
  | .timestamp _ => .temporal

/-- An expression with its type. -/
structure Typed where
  expr : Expr
  type : ExprType

namespace Expr

/-- Asks for an operand of the given type. -/
def demand (operation : Operation) (expected found : ExprType) (pos : Nat) : Except CompileError Unit :=
  if found = expected then .ok () else .error (.type (.operand operation expected found) pos)

/-- The date or timestamp that a text literal stands for. -/
def temporal? (text : String) : Option Value :=
  ((Date.ofChars? text.toList).map .date).or ((Timestamp.ofChars? text.toList).map .timestamp)

/-- Turns a text literal into the date or timestamp that it stands for. -/
def asTemporal (e : Expr) (pos : Nat) : Except CompileError Expr :=
  match e with
  | .literal (.text s) =>
    match temporal? s with
    | some v => .ok (.literal v)
    | none => .error (.type (.badDateLiteral s) pos)
  | _ => .error (.type .notDateLiteral pos)

/-- Types a comparison of typed operands. -/
def typedComparison (op : BinaryOp) (l r : Typed) (pos : Nat) : Except CompileError Expr :=
  if l.type = .null || r.type = .null then
    if op.isEquality then .ok (.binary op l.expr r.expr pos) else .error (.type (.orderedNull op) pos)
  else if l.type = .temporal && r.type = .text then
    (asTemporal r.expr pos).map (.binary op l.expr · pos)
  else if l.type = .text && r.type = .temporal then
    (asTemporal l.expr pos).map (.binary op · r.expr pos)
  else if l.type ≠ r.type then .error (.type (.incomparable l.type op r.type) pos)
  else if l.type = .boolean && !op.isEquality then .error (.type (.orderedBooleans op) pos)
  else .ok (.binary op l.expr r.expr pos)

/-- The type of the result of an operator before its operand. -/
def unaryType : UnaryOp → ExprType
  | .not => .boolean
  | .neg => .number

/-- The type of the operands of an operator other than a comparison. -/
def operandType (op : BinaryOp) : ExprType := if op.isLogical then .boolean else .number

/-- The type of the result of a function. -/
def resultType : Function → ExprType
  | .today => .temporal
  | .len | .abs => .number
  | .startsWith | .unique => .boolean

/-- The type of the arguments of a function; none where it takes fields of any type. -/
def argumentType? : Function → Option ExprType
  | .len | .startsWith => some .text
  | .abs => some .number
  | .today | .unique => none

/-- A reference to a field. -/
def isField : Expr → Bool
  | .field _ _ => true
  | _ => false

mutual

/-- Types an expression. -/
def typed (schema : Schema) : Expr → Except CompileError Typed
  | .literal v => .ok ⟨.literal v, v.exprType⟩
  | .field name pos =>
    match schema.field? name with
    | some f => .ok ⟨.field name pos, f.type.exprType⟩
    | none => .error (.unknownField name pos)
  | .unary op e pos => do
    let t ← typed schema e
    demand (.unary op) (unaryType op) t.type pos
    .ok ⟨.unary op t.expr pos, unaryType op⟩
  | .binary op l r pos => do
    let l ← typed schema l
    let r ← typed schema r
    if op.isComparison then
      let e ← typedComparison op l r pos
      .ok ⟨e, .boolean⟩
    else
      demand (.binary op) (operandType op) l.type pos
      demand (.binary op) (operandType op) r.type pos
      .ok ⟨.binary op l.expr r.expr pos, operandType op⟩
  | .call f args site pos => do
    let args ← typedArgs schema f pos args
    .ok ⟨.call f args site pos, resultType f⟩

/-- Types the arguments of a call one by one. -/
def typedArgs (schema : Schema) (f : Function) (pos : Nat) : List Expr → Except CompileError (List Expr)
  | [] => .ok []
  | e :: rest => do
    match argumentType? f with
    | some expected =>
      let t ← typed schema e
      demand (.call f) expected t.type pos
      let rest ← typedArgs schema f pos rest
      .ok (t.expr :: rest)
    | none =>
      if f = .unique && !e.isField then .error (.type .uniqueArgument pos)
      else
        let t ← typed schema e
        let rest ← typedArgs schema f pos rest
        .ok (t.expr :: rest)

end

end Expr

end RecordGate
