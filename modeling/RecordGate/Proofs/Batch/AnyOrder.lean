import RecordGate.Pattern.Reader
import RecordGate.Proofs.Rule.Plans
import RecordGate.Proofs.Sorting

/-!
# Judging in any order

Without a call of `unique` a predicate looks at nothing of a file but the date, and leaves the file as it is
(`FileState.DateOnly`); what looks at a row by such predicates only does the same, up to the judging of a whole
row (`Judge.dateOnly_row`). So the rows of a batch may be judged in whatever order a pool of workers takes them:
put back in place, the results are those of judging one row after the other (`Judge.queued_eq_inOrder`).
-/

namespace RecordGate

/-! ## What looks at the date only -/

/-- Of two files of one date both give the same result, and neither file changes. -/
def FileState.DateOnly {α : Type} (f : FileState → α × FileState) : Prop :=
  ∀ s t, s.asOf = t.asOf → f s = ((f t).1, s)

open FileState (DateOnly)

/-- A rule whose predicate is not stateful looks at the date only. -/
theorem CompiledRule.dateOnly_judge {c : CompiledRule} (plain : c.predicate.isStateful = false) (row : Record Value) :
    DateOnly (c.judge row) := by
  intro s t date
  have none (node : CallNode) (hnode : node ∈ c.predicate.calls) (unique : node.function = .unique) : False :=
    Bool.false_ne_true (plain.symm.trans (Expr.isStateful_iff.mpr ⟨node, hnode, unique⟩))
  have sim : Sim (fun s t : FileState => s.asOf = t.asOf) (c.predicate.evalWith (FileState.recorder c.id) row)
      (c.predicate.evalWith (FileState.recorder c.id) row) := by
    refine Expr.sim_evalWith ?_ ?_
    · intro s t same
      exact same
    · intro node hnode unique
      exact (none node hnode unique).elim
  have result : (c.judge row s).1 = (c.judge row t).1 := by
    rw [judge, judge, Expr.holds_eq, Expr.holds_eq]
    exact (Expr.holdsWith_sim sim date).1
  have unchanged : (c.judge row s).2 = s := Expr.holds_of_not_stateful plain
  exact Prod.ext result unchanged

namespace RulePlan

variable {index : Nat} {row : Record Value} {rules : List CompiledRule}

theorem dateOnly_evaluateAll (alone : ∀ c ∈ rules, DateOnly (c.judge row)) :
    DateOnly (evaluateAll index row rules) := by
  intro s t date
  induction rules with
  | nil => rfl
  | cons c rest ih =>
    obtain ⟨first, others⟩ := List.forall_mem_cons.mp alone
    rw [evaluateAll, evaluateAll, first s t date, first t t rfl]
    simp only [ih others]
    split <;> rfl

theorem dateOnly_evaluateCritical {next : FileState → List Violation × FileState} (after : DateOnly next)
    (alone : ∀ c ∈ rules, DateOnly (c.judge row)) : DateOnly (evaluateCritical index row next rules) := by
  intro s t date
  induction rules with
  | nil => exact after s t date
  | cons c rest ih =>
    obtain ⟨first, others⟩ := List.forall_mem_cons.mp alone
    rw [evaluateCritical, evaluateCritical, first s t date, first t t rfl]
    cases (c.judge row t).1 with
    | error e =>
      simp only [ih others]
    | ok holds =>
      cases holds with
      | true => exact ih others
      | false => rfl

/-- Evaluating a plan looks at the date only when judging each of its rules does. -/
theorem dateOnly_evaluate {p : RulePlan} (alone : ∀ c ∈ p.rules, DateOnly (c.judge row)) :
    DateOnly (p.evaluate index row) := by
  rw [RulePlan.rules, List.append_assoc] at alone
  obtain ⟨critical, others⟩ := List.forall_mem_append.mp alone
  exact dateOnly_evaluateCritical (dateOnly_evaluateAll others) critical

/-- The rules of a plan that is not stateful look at the date only. -/
theorem Candid.dateOnly_judge {p : RulePlan} (candid : p.Candid) (h : p.isStateful = false) {c : CompiledRule}
    (hc : c ∈ p.rules) (row : Record Value) : DateOnly (c.judge row) := by
  refine CompiledRule.dateOnly_judge ?_ row
  rw [← candid c hc]
  simpa using List.any_eq_false.mp h c hc

/-- A plan of rules that know what they are is stateful exactly when `unique` is called in one of them. -/
theorem Candid.isStateful_iff {p : RulePlan} (candid : p.Candid) :
    p.isStateful = true ↔ ∃ c ∈ p.rules, ∃ node ∈ c.predicate.calls, node.function = .unique := by
  rw [RulePlan.isStateful, List.any_eq_true]
  refine exists_congr fun c => and_congr_right fun hc => ?_
  rw [candid c hc]
  exact Expr.isStateful_iff

end RulePlan

/-! ## Rows from a queue -/

namespace Judge

variable {g : Judge} {file : FileState} {rows : List PendingRow}

theorem dateOnly_row (candid : g.plan.Candid) (h : g.plan.isStateful = false) (r : PendingRow) :
    DateOnly (g.row · r) := by
  intro s t date
  cases r with
  | error e => rfl
  | ok r =>
    have evaluated : DateOnly (g.plan.evaluate r.index (g.schema.check g.engine r t.asOf).values) :=
      RulePlan.dateOnly_evaluate fun c hc => candid.dateOnly_judge h hc _
    simp only [row, date]
    split
    · rfl
    · rw [evaluated s t date]

/-- Judges rows in the order in which they stand in a queue, each with its place, and puts the results in place. -/
def queued (g : Judge) (file : FileState) (queue : List (PendingRow × Nat)) : List Judged × FileState :=
  let (judged, file) := g.inOrder file (queue.map (·.1))
  let placed := (judged.zip (queue.map (·.2))).mergeSort fun a b => a.2 ≤ b.2
  (placed.map (·.1), file)

/-- Whatever the order of the queue, the results are those of judging one row after the other. -/
theorem queued_eq_inOrder (candid : g.plan.Candid) (h : g.plan.isStateful = false) {queue : List (PendingRow × Nat)}
    (perm : queue.Perm rows.zipIdx) : g.queued file queue = g.inOrder file rows := by
  let judge (r : PendingRow) : Judged := (g.row file r).1
  have placed : ((queue.map (·.1)).map judge).zip (queue.map (·.2)) = queue.map (Prod.map judge id) := by
    rw [List.map_map, List.zip_map']
    rfl
  have inPlace : rows.zipIdx.map (Prod.map judge id) = (rows.map judge).zipIdx := List.map_zipIdx
  have places : (rows.map judge).zipIdx.Pairwise fun a b => a.2 < b.2 := ascending_zipIdx _
  have together : (queue.map (Prod.map judge id)).Perm (rows.map judge).zipIdx := inPlace ▸ perm.map _
  have apart : ((rows.map judge).zipIdx.map (·.2)).Nodup := List.pairwise_map.mpr (places.imp Nat.ne_of_lt)
  have distinct : ((queue.map (Prod.map judge id)).map (·.2)).Nodup := (together.map _).nodup_iff.mpr apart
  have sorted : ((queue.map (Prod.map judge id)).mergeSort fun a b => a.2 ≤ b.2) = (rows.map judge).zipIdx :=
    mergeSort_eq_of_ascending together (List.inj_on_of_nodup_map distinct) (places.imp Nat.le_of_lt)
  unfold queued
  rw [inOrder_of_not_stateful candid h, inOrder_of_not_stateful candid h]
  simp only [sideBySide]
  rw [placed, sorted, List.zipIdx_map_fst]

/--
**Rows may be judged in any order unless `unique` is called.** If the plan that was built is not stateful, a row
is judged alike in all files of one date and leaves the file as it is. So rows that are taken from a queue in any
order give, put in place, what judging them one after the other gives, and so do the rows of a batch. The plan is
stateful exactly when `unique` is called anywhere in one of its predicates.
-/
theorem any_order {cache : RuleCache} (reachable : cache.Reachable) {rules : List Rule} {schema : Schema}
    (built : g.plan = (RulePlan.build rules schema cache).1) :
    (g.plan.isStateful = false → ∀ file rows,
      (∀ r other, file.asOf = other.asOf → g.row file r = ((g.row other r).1, file)) ∧
        (∀ queue, queue.Perm rows.zipIdx → g.queued file queue = g.inOrder file rows) ∧
        g.batch file rows = g.inOrder file rows) ∧
      (g.plan.isStateful = true ↔ ∃ c ∈ g.plan.rules, ∃ node ∈ c.predicate.calls, node.function = .unique) := by
  have candid : g.plan.Candid := built ▸ RulePlan.build_candid reachable rules schema
  refine ⟨?_, candid.isStateful_iff⟩
  intro h file rows
  refine ⟨?_, ?_, batch_eq_inOrder candid file rows⟩
  · intro r other date
    exact dateOnly_row candid h r file other date
  · intro queue perm
    exact queued_eq_inOrder candid h perm

/-- The last row is judged first, and its result still comes last. -/
theorem any_order_backwards :
    let schema : Schema := ⟨.sales, [⟨"amount", .decimal, true, []⟩], .empty⟩
    let rule : Rule := ⟨"R1", .sales, .range, "amount > 1", .critical, "", true, 1, "", none, none⟩
    let g : Judge := ⟨schema, .common, (RulePlan.build [rule] schema (.new .standard RuleCache.spread)).1, 4⟩
    let row (index : Nat) (amount : String) : PendingRow := .ok ⟨index, .ofList [("amount", .text amount)]⟩
    let rows := [row 1 "5", row 2 "0", row 3 "3"]
    g.plan.isStateful = false ∧
      (g.queued (.start .epoch) rows.zipIdx.reverse).1.map (fun j => (j.outcome.row, j.outcome.isValid)) =
        [(1, true), (2, false), (3, true)] := by
  intro schema rule g row rows
  have reachable := RuleCache.reachable_new .standard RuleCache.spread
  have taken : g = ⟨schema, .common, (RulePlan.take schema
      (.start schema.recordType (fingerprint [rule]), .new .standard RuleCache.spread) rule).1, 4⟩ := by
    simp only [g, RulePlan.build, List.mergeSort_singleton, List.foldl_cons, List.foldl_nil]
  have stateless : g.plan.isStateful = false := by
    rw [taken]
    decide +kernel
  refine ⟨stateless, ?_⟩
  rw [((any_order reachable rfl).1 stateless _ rows).2.1 _ (List.reverse_perm _), taken]
  decide +kernel

end Judge

end RecordGate
