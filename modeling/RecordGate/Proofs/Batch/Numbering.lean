import RecordGate.Batch.Judge
import RecordGate.Proofs.Schema.Rereading

/-!
# The number of a row

A row is judged by what it holds. Its number is only told in what is found: whichever number a row has, the same
rules are evaluated on the same values, the file is left alike, and the findings are the same but for the number
(`Judge.row_inRow`).
-/

namespace RecordGate

/-! ## Checking -/

theorem Field.check_inRow (engine : Pattern.Engine) (f : Field) (row again : Nat) (asOf : Date) (cell : Option Cell) :
    f.check engine again asOf cell =
      ((f.check engine row asOf cell).1, (f.check engine row asOf cell).2.map (·.inRow again)) := by
  cases found : cell.filter (!·.isEmpty) with
  | none =>
    rw [check_of_empty again found, check_of_empty row found]
    cases f.required <;> rfl
  | some c =>
    cases read : coerce? f.type c with
    | some v =>
      rw [check_of_value again found read, check_of_value row found read, List.map_filterMap]
      have alike (c : Constraint) := Constraint.error?_same (Value.same_refl v) c engine row again f.name asOf
      exact congrArg _ (List.filterMap_congr fun c _ => alike c)
    | none =>
      refine Prod.ext ?_ ?_
      · simp only [check, found, coerce, read]
      · rw [check_of_mismatch again found read, check_of_mismatch row found read]
        rfl

/-- A row of another number with the same cells is checked to the same values, with the same errors in that row. -/
theorem Schema.check_inRow (engine : Pattern.Engine) (schema : Schema) (asOf : Date) {row again : RawRow}
    (same : again.cells = row.cells) :
    (schema.check engine again asOf).values = (schema.check engine row asOf).values ∧
      (schema.check engine again asOf).errors = (schema.check engine row asOf).errors.map (·.inRow again.index) := by
  have cells : schema.resolve again = schema.resolve row := by
    rw [resolve, same]
    rfl
  have field (f : Field) := f.check_inRow engine row.index again.index asOf ((schema.resolve row).get? f.name)
  constructor
  · simp only [check_values, cells, field]
  · simp only [check_errors, cells, field, List.map_flatMap]

/-! ## Evaluating rules -/

/-- The same violation in another row. -/
def Violation.inRow (v : Violation) (row : Nat) : Violation := { v with row }

namespace RulePlan

variable {n m : Nat} {row : Record Value} {rules : List CompiledRule}

/-- What looks at a row with one number finds the same as what looks at it with another. -/
def SameIn (n : Nat) (before after : FileState → List Violation × FileState) : Prop :=
  ∀ file, after file = ((before file).1.map (·.inRow n), (before file).2)

theorem sameIn_evaluateAll : SameIn n (evaluateAll m row rules) (evaluateAll n row rules) := by
  intro file
  induction rules generalizing file with
  | nil => rfl
  | cons c rest ih =>
    rw [evaluateAll, evaluateAll]
    simp only [ih]
    split <;> rfl

theorem sameIn_evaluateCritical {before after : FileState → List Violation × FileState} (rest : SameIn n before after) :
    SameIn n (evaluateCritical m row before rules) (evaluateCritical n row after rules) := by
  intro file
  induction rules generalizing file with
  | nil => exact rest file
  | cons c rest ih =>
    rw [evaluateCritical, evaluateCritical]
    simp only [ih]
    split <;> rfl

theorem sameIn_evaluate (p : RulePlan) : SameIn n (p.evaluate m row) (p.evaluate n row) :=
  sameIn_evaluateCritical sameIn_evaluateAll

end RulePlan

/-! ## Judging -/

namespace PendingRow

/-- The number of a row, which also a row that could not be read has. -/
def number : PendingRow → Nat
  | .ok r => r.index
  | .error e => e.row

/-- What a row holds, or why it could not be read, whatever its number is. -/
def content : PendingRow → Except String (Record Cell)
  | .ok r => .ok r.cells
  | .error e => .error e.message

end PendingRow

/-- The same findings about another row. -/
def RowOutcome.inRow (o : RowOutcome) (row : Nat) : RowOutcome :=
  ⟨row, o.isValid, o.fieldErrors.map (·.inRow row), o.violations.map (·.inRow row)⟩

/-- The number of a row has no say in whether the row is valid. -/
theorem RowOutcome.of_inRow (row other : Nat) (errors : List FieldError) (violations : List Violation) :
    of other (errors.map (·.inRow other)) (violations.map (·.inRow other)) =
      (of row errors violations).inRow other := by
  simp only [of, inRow, List.any_map]
  rfl

/-- The same judgement of another row. -/
def Judged.inRow (j : Judged) (row : Nat) : Judged := { j with outcome := j.outcome.inRow row }

namespace Judge

/-- The outcome of a row has the number of the row. -/
theorem row_outcome (g : Judge) (file : FileState) (r : PendingRow) : (g.row file r).1.outcome.row = r.number := by
  cases r <;> rfl

/-- **Two rows that hold the same are judged alike**, each with its own number. -/
theorem row_inRow (g : Judge) (file : FileState) {r again : PendingRow} (same : again.content = r.content) :
    g.row file again = ((g.row file r).1.inRow again.number, (g.row file r).2) := by
  match r, again with
  | .error e, .error f =>
    have message : f.message = e.message := Except.error.inj same
    rw [row, row, message]
    rfl
  | .ok r, .ok s =>
    obtain ⟨values, errors⟩ := g.schema.check_inRow g.engine file.asOf (Except.ok.inj same)
    have critical : (g.schema.check g.engine s file.asOf).hasCritical =
        (g.schema.check g.engine r file.asOf).hasCritical := by
      rw [RowCheck.hasCritical, errors, List.any_map]
      rfl
    have evaluated (row : Record Value) : RulePlan.SameIn s.index (g.plan.evaluate r.index row)
      (g.plan.evaluate s.index row) := g.plan.sameIn_evaluate
    have outcome (violations : List Violation) :
        RowOutcome.of s.index ((g.schema.check g.engine r file.asOf).errors.map (·.inRow s.index))
            (violations.map (·.inRow s.index)) =
          (RowOutcome.of r.index (g.schema.check g.engine r file.asOf).errors violations).inRow s.index :=
      RowOutcome.of_inRow ..
    simp only [row, critical, values, errors]
    split
    · have clean := outcome []
      rw [List.map_nil] at clean
      simp only [clean]
      rfl
    · simp only [evaluated _ file, outcome]
      rfl

end Judge

end RecordGate
