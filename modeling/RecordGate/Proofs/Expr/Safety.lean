import RecordGate.Expr.Evaluate
import RecordGate.Proofs.Expr.TypeRules
import RecordGate.Proofs.Schema.Values

/-!
# Typed expressions are safe

An expression of a type evaluates to a value of that type, or fails in one of the ways that types do not
rule out: a division by zero, an overflow, or a null operand where some field is null (`Expr.eval_yields`).
This holds whatever the file has recorded, since the state decides only whether `unique` is true.

The statement about a computation is `Yields`, and it is composed along the sequence of the steps; each
operation has one lemma that says what it gives on operands of its types. What may be null is a
parameter: under `True` the lemmas tell how evaluation can fail at all, under `False` how it can fail on
rows without nulls.
-/

namespace RecordGate

/-- A value of the type; or null, where null is allowed. -/
def Value.Is (nullable : Prop) (type : ExprType) (v : Value) : Prop := v.exprType = type ∨ nullable ∧ v = .null

/-- The failures that types do not rule out. -/
def EvalError.Excused (nullable : Prop) : EvalError → Prop
  | .divisionByZero | .overflow _ => True
  | .nullOperand _ => nullable
  | .missingField _ | .typeMismatch _ _ _ | .notBoolean _ => False

/-- The result, if there is one, is as wanted, and a failure is one that types do not rule out. -/
def Gives (nullable : Prop) {α : Type} (wanted : α → Prop) : Except EvalError α → Prop
  | .ok a => wanted a
  | .error e => e.Excused nullable

/-- A computation gives what is wanted from every state of the file. -/
def Yields (nullable : Prop) {α : Type} (wanted : α → Prop) (m : Eval α) : Prop :=
  ∀ file, Gives nullable wanted (m.run file).1

section Steps

variable {nullable : Prop} {α β : Type} {p : α → Prop} {q : β → Prop}

theorem Gives.bind {x : Except EvalError α} {f : α → Except EvalError β} (hx : Gives nullable p x)
    (hf : ∀ a, p a → Gives nullable q (f a)) : Gives nullable q (x >>= f) := by
  cases x with
  | ok a => exact hf a hx
  | error e => exact hx

theorem Gives.map {x : Except EvalError α} {f : α → β} (hx : Gives nullable p x) (hf : ∀ a, p a → q (f a)) :
    Gives nullable q (x.map f) := by
  cases x with
  | ok a => exact hf a hx
  | error e => exact hx

theorem Yields.pure {a : α} (h : p a) : Yields nullable p (Pure.pure a) := fun _ => h

theorem Yields.lift {x : Except EvalError α} (h : Gives nullable p x) : Yields nullable p (liftExcept x) := by
  intro file
  cases x with
  | ok a => exact h
  | error e => exact h

theorem run_bind_of_run_ok {σ : Type} {m : ExceptT EvalError (StateM σ) α} {f : α → ExceptT EvalError (StateM σ) β}
    {file s : σ} {a : α} (h : m.run file = (.ok a, s)) : (m >>= f).run file = (f a).run s := by
  rw [ExceptT.run_bind]
  change StateT.bind m.run _ file = _
  rw [StateT.bind, h]
  rfl

theorem run_bind_of_run_error {σ : Type} {m : ExceptT EvalError (StateM σ) α}
    {f : α → ExceptT EvalError (StateM σ) β} {file s : σ} {e : EvalError} (h : m.run file = (.error e, s)) :
    (m >>= f).run file = (.error e, s) := by
  rw [ExceptT.run_bind]
  change StateT.bind m.run _ file = _
  rw [StateT.bind, h]
  rfl

theorem Yields.bind {m : Eval α} {f : α → Eval β} (hm : Yields nullable p m)
    (hf : ∀ a, p a → Yields nullable q (f a)) : Yields nullable q (m >>= f) := by
  intro file
  have first := hm file
  cases run : m.run file with
  | mk result s =>
    rw [run] at first
    cases result with
    | ok a =>
      rw [run_bind_of_run_ok run]
      exact hf a first s
    | error e =>
      rw [run_bind_of_run_error run]
      exact first

end Steps

/-! ## Operations on operands of their types -/

namespace Expr

variable {nullable : Prop} {v l r : Value}

theorem asBool_gives {operation : Operation} (h : v.Is nullable .boolean) :
    Gives nullable (fun _ => True) (asBool operation v) := by
  rcases h with h | ⟨n, rfl⟩
  · cases v with
    | bool => trivial
    | null | number | text | date | timestamp => cases h
  · exact n

theorem asNumber_gives {operation : Operation} (h : v.Is nullable .number) :
    Gives nullable (fun _ => True) (asNumber operation v) := by
  rcases h with h | ⟨n, rfl⟩
  · cases v with
    | number => trivial
    | null | bool | text | date | timestamp => cases h
  · exact n

theorem asText_gives {operation : Operation} (h : v.Is nullable .text) :
    Gives nullable (fun _ => True) (asText operation v) := by
  rcases h with h | ⟨n, rfl⟩
  · cases v with
    | text => trivial
    | null | bool | number | date | timestamp => cases h
  · exact n

theorem applyUnary_gives {op : UnaryOp} (h : v.Is nullable (unaryType op)) :
    Gives nullable (Value.Is nullable (unaryType op)) (applyUnary op v) := by
  cases op with
  | not => exact (asBool_gives h).map fun _ _ => .inl rfl
  | neg => exact (asNumber_gives h).map fun _ _ => .inl rfl

theorem calculate_gives (op : BinaryOp) (a b : Decimal) :
    Gives nullable (Value.Is nullable .number) (calculate op a b) := by
  unfold calculate
  extract_lets result
  split
  · trivial
  · cases result with
    | some d => exact .inl rfl
    | none => trivial

/-- Values of one type other than null have an order, truth values only as far as equality goes. -/
theorem order?_isSome {op : BinaryOp} {type : ExprType} (notNull : type ≠ .null)
    (order : type = .boolean → op.isEquality) (hl : l.exprType = type) (hr : r.exprType = type) :
    (order? op l r).isSome := by
  subst hl
  cases l with
  | null => exact absurd rfl notNull
  | bool a =>
    cases r with
    | bool b =>
      rw [order?, if_pos (order rfl)]
      rfl
    | null | number | text | date | timestamp => cases hr
  | number a =>
    cases r with
    | number => rfl
    | null | bool | text | date | timestamp => cases hr
  | text a =>
    cases r with
    | text => rfl
    | null | bool | number | date | timestamp => cases hr
  | date a | timestamp a =>
    cases r with
    | date | timestamp => rfl
    | null | bool | number | text => cases hr

theorem isNull_of_exprType (h : v.exprType ≠ .null) : v.isNull = false := by
  cases v with
  | null => exact absurd rfl h
  | bool | number | text | date | timestamp => rfl

theorem isNull_of_is (h : v.Is nullable .null) : v.isNull = true := by
  rcases h with h | ⟨-, rfl⟩
  · cases v with
    | null => rfl
    | bool | number | text | date | timestamp => cases h
  · rfl

theorem isComparison_of_isEquality {op : BinaryOp} (h : op.isEquality) : op.isComparison := by
  cases op <;> first | rfl | cases h

/-- Null can be tested for and has no order. -/
theorem compareValues_null {op : BinaryOp} (hop : op.isEquality ∨ nullable ∧ op.isComparison)
    (null : (l.isNull || r.isNull) = true) : Gives nullable (fun _ => True) (compareValues op l r) := by
  unfold compareValues
  rw [if_pos null]
  cases op with
  | eq | ne => trivial
  | lt | gt | le | ge => exact (hop.resolve_left Bool.false_ne_true).1
  | and | or | add | sub | mul | div =>
    exact absurd (hop.resolve_left Bool.false_ne_true).2 Bool.false_ne_true

theorem compareValues_gives {op : BinaryOp} {type : ExprType} (hop : op.isComparison) (notNull : type ≠ .null)
    (order : type = .boolean → op.isEquality) (hl : l.Is nullable type) (hr : r.Is nullable type) :
    Gives nullable (fun _ => True) (compareValues op l r) := by
  rcases hl with hl | ⟨n, rfl⟩
  · rcases hr with hr | ⟨n, rfl⟩
    · obtain ⟨o, ho⟩ := Option.isSome_iff_exists.mp (order?_isSome notNull order hl hr)
      unfold compareValues
      rw [isNull_of_exprType (hl ▸ notNull), isNull_of_exprType (hr ▸ notNull), ho]
      trivial
    · exact compareValues_null (.inr ⟨n, hop⟩) (Bool.or_true _)
  · exact compareValues_null (.inr ⟨n, hop⟩) (Bool.true_or _)

/-! ## Evaluation -/

section Eval

variable {schema : Schema} {ruleId : String} {row : Record Value}

theorem eval_field (fits : row.Fits schema) {f : Field} {pos : Nat} (hf : f ∈ schema.fields)
    (nulls : row.get? f.name = some .null → nullable) :
    Yields nullable (Value.Is nullable f.type.exprType) (eval ruleId row (.field f.name pos)) := by
  obtain ⟨v, hv, null | type⟩ := fits f hf
  · rw [eval, hv]
    exact .pure (.inr ⟨nulls (null ▸ hv), null⟩)
  · rw [eval, hv]
    exact .pure (.inl type)

/-- The arguments of `unique` are declared fields, and those have values. -/
theorem evalArgs_declared (fits : row.Fits schema) {args : List Expr} (hargs : ∀ e ∈ args, IsDeclared schema e) :
    Yields nullable (fun _ => True) (evalArgs ruleId row args) := by
  induction args with
  | nil => exact .pure trivial
  | cons e rest ih =>
    obtain ⟨⟨f, hf, pos, rfl⟩, others⟩ := List.forall_mem_cons.mp hargs
    obtain ⟨v, hv, -⟩ := fits f hf
    have value : Yields nullable (fun _ => True) (eval ruleId row (.field f.name pos)) := by
      rw [eval, hv]
      exact .pure trivial
    rw [evalArgs]
    exact value.bind fun v _ => (ih others).bind fun vs _ => .pure trivial

theorem evalArgs_nil_yields : Yields nullable (· = []) (evalArgs ruleId row []) := .pure rfl

theorem evalArgs_cons_yields {e : Expr} {rest : List Expr} {p : Value → Prop} {q : List Value → Prop}
    (he : Yields nullable p (eval ruleId row e)) (hrest : Yields nullable q (evalArgs ruleId row rest)) :
    Yields nullable (fun vs => ∃ v us, vs = v :: us ∧ p v ∧ q us) (evalArgs ruleId row (e :: rest)) := by
  rw [evalArgs]
  exact he.bind fun v hv => hrest.bind fun us hus => .pure ⟨v, us, rfl, hv, hus⟩

/-- A call, given what its function gives on the values of its arguments. -/
theorem eval_call_yields {f : Function} {args : List Expr} {site pos : Nat} {p : List Value → Prop}
    {q : Value → Prop} (hf : f ≠ .unique) (hargs : Yields nullable p (evalArgs ruleId row args))
    (applied : ∀ asOf vs, p vs → Gives nullable q (applyFunction asOf f vs)) :
    Yields nullable q (eval ruleId row (.call f args site pos)) := by
  rw [eval]
  refine hargs.bind fun vs hvs => ?_
  rw [if_neg hf]
  have state : Yields nullable (fun _ => True) (get : Eval FileState) := fun _ => trivial
  exact state.bind fun file _ => .lift (applied file.asOf vs hvs)

theorem eval_logical {op : BinaryOp} {l r : Expr} {pos : Nat} (hop : op.isLogical) :
    eval ruleId row (.binary op l r pos) =
      (eval ruleId row l >>= fun a => liftExcept (asBool (.binary op) a) >>= fun t =>
        if (t = true) = (op = .or) then pure (.bool (op = .or))
        else eval ruleId row r >>= fun b => liftExcept (asBool (.binary op) b) >>= fun t => pure (.bool t)) := by
  rw [eval]
  simp only [hop, if_true]

theorem eval_strict {op : BinaryOp} {l r : Expr} {pos : Nat} (hop : op.isLogical = false) :
    eval ruleId row (.binary op l r pos) =
      (eval ruleId row l >>= fun a => eval ruleId row r >>= fun b => liftExcept (applyBinary op a b)) := by
  rw [eval]
  simp only [hop, Bool.false_eq_true, if_false]

/-- AND, OR and arithmetic on operands of the type that they ask for. -/
theorem eval_joined_yields {op : BinaryOp} {l r : Expr} {pos : Nat} (hop : op.isComparison = false)
    (hl : Yields nullable (Value.Is nullable (operandType op)) (eval ruleId row l))
    (hr : Yields nullable (Value.Is nullable (operandType op)) (eval ruleId row r)) :
    Yields nullable (Value.Is nullable (operandType op)) (eval ruleId row (.binary op l r pos)) := by
  by_cases logical : op.isLogical
  · have type : operandType op = .boolean := if_pos logical
    rw [type] at hl hr ⊢
    rw [eval_logical logical]
    refine hl.bind fun a ha => (Yields.lift (asBool_gives ha)).bind fun t _ => ?_
    split
    · exact .pure (.inl rfl)
    · exact hr.bind fun b hb => (Yields.lift (asBool_gives hb)).bind fun t _ => .pure (.inl rfl)
  · have type : operandType op = .number := if_neg logical
    have arithmetic : op.isArithmetic := by cases op <;> first | rfl | exact absurd rfl logical | cases hop
    rw [type] at hl hr ⊢
    rw [eval_strict (Bool.eq_false_iff.mpr logical)]
    refine hl.bind fun a ha => hr.bind fun b hb => .lift ?_
    rw [applyBinary, if_pos arithmetic]
    exact (asNumber_gives ha).bind fun x _ => (asNumber_gives hb).bind fun y _ => calculate_gives op x y

theorem eval_compared {op : BinaryOp} {l r : Expr} {pos : Nat} (hop : op.isComparison) :
    eval ruleId row (.binary op l r pos) =
      (eval ruleId row l >>= fun a => eval ruleId row r >>= fun b => liftExcept ((compareValues op a b).map .bool)) := by
  have strict : op.isLogical = false ∧ op.isArithmetic = false := by
    cases op <;> first | exact ⟨rfl, rfl⟩ | cases hop
  simp only [eval_strict strict.1, applyBinary, strict.2, if_neg Bool.false_ne_true]

/-- A comparison, given what comparing the values of its operands gives. -/
theorem eval_compared_yields {op : BinaryOp} {l r : Expr} {pos : Nat} {p q : Value → Prop} (hop : op.isComparison)
    (hl : Yields nullable p (eval ruleId row l)) (hr : Yields nullable q (eval ruleId row r))
    (compared : ∀ a, p a → ∀ b, q b → Gives nullable (fun _ => True) (compareValues op a b)) :
    Yields nullable (Value.Is nullable .boolean) (eval ruleId row (.binary op l r pos)) := by
  rw [eval_compared hop]
  exact hl.bind fun a ha => hr.bind fun b hb => .lift ((compared a ha b hb).map fun _ _ => .inl rfl)

/--
**Evaluation is safe**: on a row that fits the schema an expression of a type gives a value of the type,
or fails by an overflow or a division by zero; null comes in only where a field it mentions is null.
-/
theorem eval_yields (fits : row.Fits schema) {e : Expr} {type : ExprType} (h : HasType schema e type)
    (nulls : ∀ name, e.Mentions name → row.get? name = some .null → nullable) :
    Yields nullable (Value.Is nullable type) (eval ruleId row e) := by
  induction h with
  | literal v => exact .pure (.inl rfl)
  | field hf => exact eval_field fits hf (nulls _ rfl)
  | unary _ ih =>
    rw [eval]
    exact (ih nulls).bind fun v hv => .lift (applyUnary_gives hv)
  | @joined op l r pos hop _ _ ihl ihr =>
    have left := ihl fun name mem => nulls name (.inl mem)
    have right := ihr fun name mem => nulls name (.inr mem)
    exact eval_joined_yields hop left right
  | @compared op l r pos type hop notNull order _ _ ihl ihr =>
    have left := ihl fun name mem => nulls name (.inl mem)
    have right := ihr fun name mem => nulls name (.inr mem)
    exact eval_compared_yields hop left right fun a ha b hb => compareValues_gives hop notNull order ha hb
  | @comparedToNull op l r pos τ σ hop null _ _ ihl ihr =>
    have left := ihl fun name mem => nulls name (.inl mem)
    have right := ihr fun name mem => nulls name (.inr mem)
    refine eval_compared_yields (isComparison_of_isEquality hop) left right fun a ha b hb => ?_
    refine compareValues_null (.inl hop) (Bool.or_eq_true_iff.mpr ?_)
    exact null.imp (fun h => isNull_of_is (h ▸ ha)) (fun h => isNull_of_is (h ▸ hb))
  | today => exact eval_call_yields nofun evalArgs_nil_yields fun _ _ _ => .inl rfl
  | len _ ih =>
    have arg := ih fun name mem => nulls name (.inl mem)
    refine eval_call_yields nofun (evalArgs_cons_yields arg evalArgs_nil_yields) ?_
    rintro asOf _ ⟨v, us, rfl, hv, -⟩
    exact (asText_gives hv).map fun _ _ => .inl rfl
  | abs _ ih =>
    have arg := ih fun name mem => nulls name (.inl mem)
    refine eval_call_yields nofun (evalArgs_cons_yields arg evalArgs_nil_yields) ?_
    rintro asOf _ ⟨v, us, rfl, hv, -⟩
    exact (asNumber_gives hv).map fun _ _ => .inl rfl
  | startsWith _ _ ih ihf =>
    have text := ih fun name mem => nulls name (.inl mem)
    have front := ihf fun name mem => nulls name (.inr (.inl mem))
    refine eval_call_yields nofun (evalArgs_cons_yields text (evalArgs_cons_yields front evalArgs_nil_yields)) ?_
    rintro asOf _ ⟨v, _, rfl, hv, w, us, rfl, hw, -⟩
    exact (asText_gives hv).bind fun _ _ => (asText_gives hw).bind fun _ _ => .inl rfl
  | unique hargs =>
    rw [eval]
    exact (evalArgs_declared fits hargs).bind fun vs _ _ => .inl rfl

end Eval

end Expr

end RecordGate
