import RecordGate.Expr.Error
import RecordGate.FileState
import RecordGate.Record

/-!
# Evaluation

An expression is evaluated on the values of a row. Operands are evaluated from left to right, AND and OR
stop as soon as the result is known, and what `unique` has recorded stays recorded when evaluation
fails later on.

Main definitions: `Expr.eval`, `Expr.holds`.
-/

namespace RecordGate

/-- Evaluation may fail, and may record keys in the state of the file either way. -/
abbrev Eval := ExceptT EvalError (StateM FileState)

namespace Expr

/-- The truth value of an operand. -/
def asBool (operation : Operation) : Value → Except EvalError Bool
  | .bool b => .ok b
  | .null => .error (.nullOperand operation)
  | v => .error (.typeMismatch operation v.kind .boolean)

/-- The number of an operand. -/
def asNumber (operation : Operation) : Value → Except EvalError Decimal
  | .number d => .ok d
  | .null => .error (.nullOperand operation)
  | v => .error (.typeMismatch operation v.kind .number)

/-- The text of an operand. -/
def asText (operation : Operation) : Value → Except EvalError String
  | .text s => .ok s
  | .null => .error (.nullOperand operation)
  | v => .error (.typeMismatch operation v.kind .text)

/-- Arithmetic on two numbers. -/
def calculate (op : BinaryOp) (l r : Decimal) : Except EvalError Value :=
  let result : Option Decimal := match op with
    | .add => l.add? r
    | .sub => l.sub? r
    | .mul => l.mul? r
    | .div => l.div? r
    | _ => none
  if op = .div && r.isZero then .error .divisionByZero
  else
    match result with
    | some d => .ok (.number d)
    | none => .error (.overflow op)

/-- A date counts as its midnight. -/
def asMoment? : Value → Option Timestamp
  | .date d => some (.midnight d)
  | .timestamp t => some t
  | _ => none

/-- The order of two truth values. -/
def cmpBool (a b : Bool) : Ordering := compare a.toNat b.toNat

/-- The order of two values other than null; none when they cannot be compared by the operator. -/
def order? (op : BinaryOp) (l r : Value) : Option Ordering :=
  match l, r with
  | .number a, .number b => some (a.cmp b)
  | .text a, .text b => some (compare a b)
  | .bool a, .bool b => if op.isEquality then some (cmpBool a b) else none
  | _, _ =>
    match asMoment? l, asMoment? r with
    | some a, some b => some (a.cmp b)
    | _, _ => none

/-- Whether an order satisfies a comparison. -/
def satisfies (op : BinaryOp) (o : Ordering) : Bool :=
  match op with
  | .eq => o == .eq
  | .ne => o != .eq
  | .lt => o == .lt
  | .gt => o == .gt
  | .le => o != .gt
  | .ge => o != .lt
  | _ => false

/-- Compares two values. Null equals null alone and has no order. -/
def compareValues (op : BinaryOp) (l r : Value) : Except EvalError Bool :=
  if l.isNull || r.isNull then
    match op with
    | .eq => .ok (l.isNull && r.isNull)
    | .ne => .ok (!(l.isNull && r.isNull))
    | _ => .error (.nullOperand (.binary op))
  else
    match order? op l r with
    | some o => .ok (satisfies op o)
    | none => .error (.typeMismatch (.binary op) l.kind r.kind)

/-- Applies an operator before its operand. -/
def applyUnary (op : UnaryOp) (v : Value) : Except EvalError Value :=
  match op with
  | .not => (asBool (.unary .not) v).map fun b => .bool !b
  | .neg => (asNumber (.unary .neg) v).map fun d => .number d.neg

/-- Applies an operator whose operands are both evaluated. -/
def applyBinary (op : BinaryOp) (l r : Value) : Except EvalError Value :=
  if op.isArithmetic then do
    let a ← asNumber (.binary op) l
    let b ← asNumber (.binary op) r
    calculate op a b
  else (compareValues op l r).map .bool

/-- Whether the first list of characters begins the second. -/
def startsWith (text front : String) : Bool := front.toList.isPrefixOf text.toList

/-- Calls a function other than `unique` on its arguments. -/
def applyFunction (asOf : Date) (f : Function) (args : List Value) : Except EvalError Value :=
  match f, args with
  | .today, _ => .ok (.date asOf)
  | .len, v :: _ => (asText (.call .len) v).map fun s => .number (Decimal.ofNat s.length)
  | .abs, v :: _ => (asNumber (.call .abs) v).map fun d => .number d.abs
  | .startsWith, v :: w :: _ => do
    let text ← asText (.call .startsWith) v
    let front ← asText (.call .startsWith) w
    .ok (.bool (startsWith text front))
  | _, _ => .error (.nullOperand .application)

mutual

/-- The value of an expression on a row. -/
def eval (ruleId : String) (row : Record Value) : Expr → Eval Value
  | .literal v => pure v
  | .field name _ =>
    match row.get? name with
    | some v => pure v
    | none => throw (.missingField name)
  | .unary op e _ => do
    let v ← eval ruleId row e
    liftExcept (applyUnary op v)
  | .binary op l r _ => do
    let a ← eval ruleId row l
    if op.isLogical then
      -- AND is settled by false, OR by true.
      let settled := op = .or
      if (← liftExcept (asBool (.binary op) a)) = settled then return .bool settled
      let b ← eval ruleId row r
      return .bool (← liftExcept (asBool (.binary op) b))
    else
      let b ← eval ruleId row r
      liftExcept (applyBinary op a b)
  | .call f args site _ => do
    let values ← evalArgs ruleId row args
    if f = .unique then
      modifyGet fun s =>
        let (fresh, s) := s.record ruleId site values
        (.bool fresh, s)
    else liftExcept (applyFunction (← get).asOf f values)

/-- The values of several expressions, from left to right. -/
def evalArgs (ruleId : String) (row : Record Value) : List Expr → Eval (List Value)
  | [] => pure []
  | e :: rest => do
    let v ← eval ruleId row e
    let vs ← evalArgs ruleId row rest
    return v :: vs

end

/-- Whether a predicate holds on a row, with the state of the file afterwards. -/
def holds (ruleId : String) (e : Expr) (row : Record Value) (file : FileState) : Except EvalError Bool × FileState :=
  let (result, file) := (eval ruleId row e).run file
  match result with
  | .ok (.bool b) => (.ok b, file)
  | .ok v => (.error (.notBoolean v.kind), file)
  | .error e => (.error e, file)

end Expr

end RecordGate
