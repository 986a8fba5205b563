import RecordGate.Pattern.Reader
import RecordGate.Proofs.Expr.Language
import RecordGate.Proofs.Expr.Safety
import RecordGate.Rule.Compiled

/-!
# Compiled rules do not go wrong

A rule that compiles against a consistent schema is judged on the values of a checked row without a
missing field and without a mismatch of types, whatever the row, the day and the file. Where no field
of its predicate is null, the judgement is a truth value, a division by zero or an overflow.

The parts: reading gives a proper tree (`proper_of_parseExpr`), typing a proper tree gives its type
(`Expr.hasType_of_typed`), checking a row gives values that fit the schema (`Schema.check_fits`), and on
such values evaluation is safe (`Expr.eval_yields`).
-/

namespace RecordGate

/-- What a compiled rule is made of. -/
theorem Rule.compile_ok {r : Rule} {schema : Schema} {c : CompiledRule} (h : r.compile schema = .ok c) :
    ∃ e t, parseExpr r.expression = .ok e ∧ e.typed schema = .ok t ∧ t.type = .boolean ∧
      c = ⟨r.id, r.recordType, r.ruleType, r.severity, r.expression, r.template, r.revision,
        t.expr.isStateful, t.expr⟩ := by
  obtain ⟨e, he, h⟩ := bind_eq_ok.mp h
  obtain ⟨t, ht, h⟩ := bind_eq_ok.mp h
  split at h
  · cases h
  next boolean =>
  split at h
  · cases h
  · cases h
    exact ⟨e, t, he, ht, Decidable.not_not.mp boolean, rfl⟩

/-- The predicate of a compiled rule is of the type of truth values. -/
theorem Rule.hasType_predicate {r : Rule} {schema : Schema} {c : CompiledRule} (h : r.compile schema = .ok c) :
    Expr.HasType schema c.predicate .boolean := by
  obtain ⟨e, t, he, ht, boolean, rfl⟩ := compile_ok h
  exact boolean ▸ Expr.hasType_of_typed (proper_of_parseExpr he) ht

/-- How a judgement can end: a null of the type of truth values is no truth value. -/
def SafelyJudged (nullable : Prop) : Except EvalError Bool → Prop
  | .ok _ => True
  | .error (.notBoolean found) => nullable ∧ found = .null
  | .error e => e.Excused nullable

theorem Expr.holds_safelyJudged {nullable : Prop} {ruleId : String} {e : Expr} {row : Record Value}
    (h : Yields nullable (Value.Is nullable .boolean) (eval ruleId row e)) (file : FileState) :
    SafelyJudged nullable (e.holds ruleId row file).1 := by
  have value := h file
  unfold holds
  cases run : (eval ruleId row e).run file with
  | mk result file' =>
    rw [run] at value
    cases result with
    | error err =>
      cases err with
      | notBoolean => exact absurd value id
      | missingField | nullOperand | typeMismatch | divisionByZero | overflow => exact value
    | ok v =>
      rcases value with type | ⟨null, rfl⟩
      · cases v with
        | bool => trivial
        | null | number | text | date | timestamp => cases type
      · exact ⟨null, rfl⟩

/-- What may be null in a judgement is what is null among the fields of the predicate. -/
theorem CompiledRule.judge_safelyJudged {engine : Pattern.Engine} {schema : Schema} {r : Rule} {c : CompiledRule}
    {nullable : Prop} (hs : schema.consistent? engine = .ok ()) (hc : r.compile schema = .ok c) (row : RawRow)
    (asOf : Date)
    (nulls : ∀ name ∈ c.predicate.fields, (schema.check engine row asOf).values.get? name = some .null → nullable)
    (file : FileState) : SafelyJudged nullable (c.judge (schema.check engine row asOf).values file).1 :=
  Expr.holds_safelyJudged (Expr.eval_yields (Schema.check_fits hs row asOf) (Rule.hasType_predicate hc)
    fun name mentioned => nulls name (Expr.mem_fields.mpr mentioned)) file

/--
**Compiled rules do not go wrong.** On the values of a checked row a judgement never ends with a missing
field or a mismatch of types, and the only value that is no truth value is null. Where no field of the
predicate is null, it is a truth value, a division by zero or an overflow.
-/
theorem CompiledRule.judge_safe {engine : Pattern.Engine} {schema : Schema} {r : Rule} {c : CompiledRule}
    (hs : schema.consistent? engine = .ok ()) (hc : r.compile schema = .ok c) (row : RawRow) (asOf : Date)
    (file : FileState) :
    let values := (schema.check engine row asOf).values
    let judgement := (c.judge values file).1
    (∀ name, judgement ≠ .error (.missingField name)) ∧
      (∀ operation left right, judgement ≠ .error (.typeMismatch operation left right)) ∧
      (∀ found, judgement = .error (.notBoolean found) → found = .null) ∧
      ((∀ name ∈ c.predicate.fields, values.get? name ≠ some .null) →
        judgement = .ok true ∨ judgement = .ok false ∨ judgement = .error .divisionByZero ∨
          ∃ op, judgement = .error (.overflow op)) := by
  intro values judgement
  have always : SafelyJudged True judgement := judge_safelyJudged hs hc row asOf (fun _ _ _ => trivial) file
  refine ⟨fun name h => ?_, fun operation left right h => ?_, fun found h => ?_, fun noNull => ?_⟩
  · rw [h] at always
    exact always
  · rw [h] at always
    exact always
  · rw [h] at always
    exact always.2
  · have sure : SafelyJudged False judgement := judge_safelyJudged hs hc row asOf noNull file
    cases result : judgement with
    | ok b =>
      cases b with
      | true => exact .inl rfl
      | false => exact .inr (.inl rfl)
    | error e =>
      rw [result] at sure
      cases e with
      | divisionByZero => exact .inr (.inr (.inl rfl))
      | overflow op => exact .inr (.inr (.inr ⟨op, rfl⟩))
      | notBoolean => exact sure.1.elim
      | missingField | nullOperand | typeMismatch => exact False.elim sure

/-- A quotient by a rate that happens to be zero, before a date that is never looked at. -/
theorem CompiledRule.judge_safe_rate_zero :
    let engine : Pattern.Engine := .common
    let schema : Schema := ⟨.sales, [⟨"amount", .decimal, true, []⟩, ⟨"rate", .integer, true, []⟩,
      ⟨"due", .timestamp, false, []⟩], .empty⟩
    let rule : Rule := ⟨"R1", .sales, .business, "amount / rate > 1.5 OR due >= '2024-01-31'", .critical, "",
      true, 0, "", none, none⟩
    let row : RawRow := ⟨1, .ofList [("Amount", .text " 3.0 "), ("rate", .number .zero),
      ("due", .text "2024-02-01 10:00:00")]⟩
    let values := (schema.check engine row .epoch).values
    ∃ c, schema.consistent? engine = .ok () ∧ rule.compile schema = .ok c ∧
      (∀ name ∈ c.predicate.fields, values.get? name ≠ some .null) ∧
      ((c.judge values (.start .epoch)).1 = .ok true ∨ (c.judge values (.start .epoch)).1 = .ok false ∨
        (c.judge values (.start .epoch)).1 = .error .divisionByZero ∨
        ∃ op, (c.judge values (.start .epoch)).1 = .error (.overflow op)) := by
  intro engine schema rule row values
  have consistent : schema.consistent? engine = .ok () := by rfl
  have compiles : ((rule.compile schema).toOption.any fun c =>
      c.predicate.fields.all fun name => values.get? name ≠ some .null) = true := by decide +kernel
  cases compiled : rule.compile schema with
  | error e =>
    rw [compiled] at compiles
    cases compiles
  | ok c =>
    rw [compiled] at compiles
    have noNull (name : String) (h : name ∈ c.predicate.fields) : values.get? name ≠ some .null :=
      of_decide_eq_true (List.all_eq_true.mp compiles name h)
    exact ⟨c, consistent, rfl, noNull,
      (CompiledRule.judge_safe consistent compiled row .epoch (.start .epoch)).2.2.2 noNull⟩

end RecordGate
