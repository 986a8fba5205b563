import RecordGate.Batch.Judge
import RecordGate.Proofs.Expr.Recording

/-!
# Judging side by side

Rows are judged side by side when no rule of the plan is stateful. Then no row changes the file, so it is
as if they were judged one after the other (`Judge.batch_eq_inOrder`), provided that every rule knows
whether it is stateful (`RulePlan.Candid`). Rows in order can be cut anywhere (`Judge.inOrder_append`).
-/

namespace RecordGate

namespace RulePlan

/-- Every rule of the plan says it is stateful when its predicate is. -/
def Candid (p : RulePlan) : Prop := ∀ c ∈ p.rules, c.stateful = c.predicate.isStateful

/-- What every rule keeps of the file is kept when all rules are evaluated. -/
theorem evaluateAll_keeps {P : FileState → Prop} {index : Nat} {row : Record Value} {rules : List CompiledRule}
    (keeps : ∀ c ∈ rules, ∀ file, P file → P (c.judge row file).2) {file : FileState} (h : P file) :
    P (evaluateAll index row rules file).2 := by
  induction rules generalizing file with
  | nil => exact h
  | cons c rest ih =>
    obtain ⟨first, others⟩ := List.forall_mem_cons.mp keeps
    have last : P (evaluateAll index row rest (c.judge row file).2).2 := ih others (first file h)
    rw [evaluateAll]
    cases judged : c.judge row file with
    | mk result file' =>
      rw [judged] at last
      cases result with
      | error e => exact last
      | ok b => cases b <;> exact last

/-- What every rule and what follows keeps of the file is kept by the critical rules and what follows. -/
theorem evaluateCritical_keeps {P : FileState → Prop} {index : Nat} {row : Record Value}
    {next : FileState → List Violation × FileState} {rules : List CompiledRule}
    (keeps : ∀ c ∈ rules, ∀ file, P file → P (c.judge row file).2) (after : ∀ file, P file → P (next file).2)
    {file : FileState} (h : P file) : P (evaluateCritical index row next rules file).2 := by
  induction rules generalizing file with
  | nil => exact after file h
  | cons c rest ih =>
    obtain ⟨first, others⟩ := List.forall_mem_cons.mp keeps
    have now : P (c.judge row file).2 := first file h
    rw [evaluateCritical]
    cases judged : c.judge row file with
    | mk result file' =>
      rw [judged] at now
      cases result with
      | error e => exact ih others now
      | ok b =>
        cases b with
        | true => exact ih others now
        | false => exact now

/-- What every rule of a plan keeps of the file is kept when a row is evaluated. -/
theorem evaluate_keeps {P : FileState → Prop} {p : RulePlan} {index : Nat} {row : Record Value}
    (keeps : ∀ c ∈ p.rules, ∀ file, P file → P (c.judge row file).2) {file : FileState} (h : P file) :
    P (p.evaluate index row file).2 := by
  rw [rules, List.append_assoc] at keeps
  obtain ⟨critical, others⟩ := List.forall_mem_append.mp keeps
  exact evaluateCritical_keeps critical (fun _ => evaluateAll_keeps others) h

/-- No rule of a plan that is not stateful changes the file. -/
theorem Candid.judge_of_not_stateful {p : RulePlan} (candid : p.Candid) (h : p.isStateful = false) {c : CompiledRule}
    (hc : c ∈ p.rules) (row : Record Value) (file : FileState) : (c.judge row file).2 = file := by
  have plain : c.predicate.isStateful = false := by
    rw [← candid c hc]
    simpa using List.any_eq_false.mp h c hc
  rw [CompiledRule.judge, Expr.holds_of_not_stateful plain]

end RulePlan

/-- The values that a judged row is loaded with: its checked values, if it could be read and is valid. -/
def Schema.typed? (s : Schema) (engine : Pattern.Engine) (asOf : Date) (r : PendingRow) (j : Judged) :
    Option TableRow :=
  match r with
  | .ok raw => if j.outcome.isValid then some (s.check engine raw asOf).values else none
  | .error _ => none

/-- Judging a rule does not change the processing date. -/
theorem CompiledRule.asOf_judge (c : CompiledRule) (row : Record Value) (file : FileState) :
    (c.judge row file).2.asOf = file.asOf := by
  rw [judge, Expr.holds_eq]
  exact Expr.holdsWith_keeps (P := fun s : FileState => s.asOf = file.asOf) (fun _ _ _ _ _ _ same => same) rfl

namespace Judge

variable {g : Judge} {file : FileState}

theorem inOrder_cons (r : PendingRow) (rest : List PendingRow) :
    g.inOrder file (r :: rest) =
      ((g.row file r).1 :: (g.inOrder (g.row file r).2 rest).1, (g.inOrder (g.row file r).2 rest).2) := rfl

/-- Rows in order can be cut anywhere. -/
theorem inOrder_append (rows more : List PendingRow) :
    g.inOrder file (rows ++ more) =
      ((g.inOrder file rows).1 ++ (g.inOrder (g.inOrder file rows).2 more).1,
        (g.inOrder (g.inOrder file rows).2 more).2) := by
  induction rows generalizing file with
  | nil => rfl
  | cons r rest ih => rw [List.cons_append, inOrder_cons, ih, inOrder_cons, List.cons_append]

/-- What every rule keeps of the file is kept when a row is judged. -/
theorem row_keeps {P : FileState → Prop}
    (keeps : ∀ c ∈ g.plan.rules, ∀ row file, P file → P (c.judge row file).2) (r : PendingRow) (h : P file) :
    P (g.row file r).2 := by
  cases r with
  | error e => exact h
  | ok r =>
    have kept : P (g.plan.evaluate r.index (g.schema.check g.engine r file.asOf).values file).2 :=
      RulePlan.evaluate_keeps (fun c hc => keeps c hc _) h
    rw [row]
    split
    next violations file' evaluated =>
    split at evaluated
    · obtain ⟨-, rfl⟩ := Prod.mk.inj evaluated
      exact h
    · rw [evaluated] at kept
      exact kept

theorem row_of_not_stateful (candid : g.plan.Candid) (h : g.plan.isStateful = false) (r : PendingRow) :
    (g.row file r).2 = file := by
  refine row_keeps (P := (· = file)) (fun c hc row s same => ?_) r rfl
  rw [candid.judge_of_not_stateful h hc, same]

theorem inOrder_of_not_stateful (candid : g.plan.Candid) (h : g.plan.isStateful = false) (rows : List PendingRow) :
    g.inOrder file rows = (g.sideBySide file rows, file) := by
  induction rows with
  | nil => rfl
  | cons r rest ih =>
    rw [inOrder_cons, row_of_not_stateful candid h r, ih]
    rfl

/-- **A batch is judged as if row by row.** -/
theorem batch_eq_inOrder (candid : g.plan.Candid) (file : FileState) (rows : List PendingRow) :
    g.batch file rows = g.inOrder file rows := by
  unfold batch
  split
  · next sideBySide =>
    simp only [isParallel, Bool.and_eq_true, Bool.not_eq_true'] at sideBySide
    exact (inOrder_of_not_stateful candid sideBySide.1 rows).symm
  · rfl

/-- The number of workers does not matter to rows in order. -/
theorem inOrder_workers (workers : Nat) (rows : List PendingRow) :
    Judge.inOrder { g with workers := workers } file rows = g.inOrder file rows := by
  induction rows generalizing file with
  | nil => rfl
  | cons r rest ih =>
    have same : Judge.row { g with workers := workers } file r = g.row file r := by
      cases r <;> rfl
    rw [inOrder_cons, inOrder_cons, same, ih]

theorem values_row (r : PendingRow) :
    (g.row file r).1.values = g.schema.typed? g.engine file.asOf r (g.row file r).1 := by
  cases r with
  | error e => rfl
  | ok raw => rfl

/-- A row that is judged has values when it is valid. -/
theorem isSome_values_row (r : PendingRow) : (g.row file r).1.values.isSome = (g.row file r).1.outcome.isValid := by
  cases r with
  | error e => rfl
  | ok raw =>
    rw [values_row, Schema.typed?]
    split
    · next valid => exact valid.symm
    · next invalid => exact (Bool.eq_false_iff.mpr invalid).symm

/-- No row changes the processing date. -/
theorem asOf_row (r : PendingRow) : (g.row file r).2.asOf = file.asOf :=
  row_keeps (P := fun s => s.asOf = file.asOf) (fun c _ row s same => (c.asOf_judge row s).trans same) r rfl

/-- What is loaded are the typed values of the valid rows. -/
theorem values_inOrder (file : FileState) (rows : List PendingRow) :
    (g.inOrder file rows).1.filterMap (·.values) =
      (rows.zip (g.inOrder file rows).1).filterMap fun (r, j) => g.schema.typed? g.engine file.asOf r j := by
  induction rows generalizing file with
  | nil => rfl
  | cons r rest ih =>
    rw [inOrder_cons, List.filterMap_cons, ih, asOf_row, List.zip_cons_cons, List.filterMap_cons, values_row]

theorem isSome_values {rows : List PendingRow} {j : Judged} (h : j ∈ (g.inOrder file rows).1) :
    j.values.isSome = j.outcome.isValid := by
  induction rows generalizing file with
  | nil => cases h
  | cons r rest ih =>
    rw [inOrder_cons] at h
    rcases List.mem_cons.mp h with rfl | h
    · exact isSome_values_row r
    · exact ih h

/-- There are as many rows to load as rows are valid. -/
theorem length_values (file : FileState) (rows : List PendingRow) :
    ((g.inOrder file rows).1.filterMap (·.values)).length =
      ((g.inOrder file rows).1.map (·.outcome)).countP (·.isValid) := by
  rw [List.length_filterMap_eq_countP, List.countP_map]
  refine List.countP_congr fun j hj => ?_
  rw [isSome_values hj]
  rfl

end Judge

end RecordGate
