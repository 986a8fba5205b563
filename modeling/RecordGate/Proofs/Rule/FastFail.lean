import RecordGate.Proofs.Rule.Groups
import RecordGate.Proofs.Rule.Isolation
import RecordGate.Proofs.Rule.Planning

/-!
# The first rule that fails ends the evaluation of a row

Critical rules are judged one after the other up to the first that does not hold (`RulePlan.FailsFirst`). A rule
that cannot be evaluated does not end anything: it leaves a warning, and the next rule is judged. So a critical
violation is the last one of its row, and what stands before it are warnings of critical rules that could not be
evaluated (`RulePlan.evaluate_fast_fail`). It need not stand alone (`RulePlan.evaluate_warning_beside_critical`).
-/

namespace RecordGate.RulePlan

variable {index : Nat} {row : Record Value} {file : FileState} {rules earlier later : List CompiledRule}
  {c : CompiledRule} {next : FileState → List Violation × FileState}

/-! ## Rules judged one after the other -/

/-- The rules with what came of judging them, one after the other. -/
def trace (row : Record Value) : List CompiledRule → FileState → List (CompiledRule × Except EvalError Bool)
  | [], _ => []
  | c :: rest, file => (c, (c.judge row file).1) :: trace row rest (c.judge row file).2

/-- The state of the file when the rules have been judged. -/
def fileAfter (row : Record Value) : List CompiledRule → FileState → FileState
  | [], file => file
  | c :: rest, file => fileAfter row rest (c.judge row file).2

/-- What judging the rules has found. -/
def findings (index : Nat) (row : Record Value) (rules : List CompiledRule) (file : FileState) : List Violation :=
  (trace row rules file).filterMap fun judged => finding? judged.1 index row judged.2

theorem findings_cons : findings index row (c :: rules) file =
    (finding? c index row (c.judge row file).1).toList ++ findings index row rules (c.judge row file).2 := by
  rw [findings, trace, List.filterMap_cons]
  cases finding? c index row (c.judge row file).1 <;> rfl

/-- Every rule is judged, and what is found is collected. -/
theorem evaluateAll_eq :
    evaluateAll index row rules file = (findings index row rules file, fileAfter row rules file) := by
  induction rules generalizing file with
  | nil => rfl
  | cons c rest ih => rw [evaluateAll_cons, findings_cons, ih, fileAfter]

/-- A finding is one of a rule that was judged. -/
theorem of_mem_findings {v : Violation} (h : v ∈ findings index row rules file) :
    ∃ judged ∈ trace row rules file, finding? judged.1 index row judged.2 = some v :=
  List.mem_filterMap.mp h

theorem mem_of_mem_trace {judged : CompiledRule × Except EvalError Bool} (h : judged ∈ trace row rules file) :
    judged.1 ∈ rules := by
  induction rules generalizing file with
  | nil => cases h
  | cons c rest ih =>
    rcases List.mem_cons.mp h with rfl | h
    · exact List.mem_cons_self
    · exact List.mem_cons_of_mem c (ih h)

/-! ## The first that fails -/

/-- None of the rules is judged not to hold. One that cannot be evaluated does not count. -/
def NoneFails (row : Record Value) (rules : List CompiledRule) (file : FileState) : Prop :=
  ∀ judged ∈ trace row rules file, judged.2 ≠ .ok false

/-- A rule that is judged not to hold, where none of those before it is. -/
structure FailsFirst (row : Record Value) (file : FileState) (earlier : List CompiledRule) (c : CompiledRule) :
    Prop where
  before : NoneFails row earlier file
  fails : (c.judge row (fileAfter row earlier file)).1 = .ok false

theorem noneFails_nil : NoneFails row [] file := List.forall_mem_nil _

theorem noneFails_cons : NoneFails row (c :: rules) file ↔
    (c.judge row file).1 ≠ .ok false ∧ NoneFails row rules (c.judge row file).2 := by
  rw [NoneFails, trace, List.forall_mem_cons]
  rfl

/-- Where no rule fails, what is found are rules that could not be evaluated. -/
theorem NoneFails.unevaluated (h : NoneFails row rules file) {v : Violation}
    (found : v ∈ findings index row rules file) :
    ∃ d ∈ rules, ∃ e, (d, .error e) ∈ trace row rules file ∧ v = unevaluated d index e := by
  obtain ⟨⟨d, result⟩, judged, finding⟩ := of_mem_findings found
  cases result with
  | error e => exact ⟨d, mem_of_mem_trace judged, e, judged, (Option.some.inj finding).symm⟩
  | ok b =>
    cases b with
    | true => cases finding
    | false => exact absurd rfl (h _ judged)

/-- A rule that does not fail leaves its finding, and the others are evaluated. -/
theorem evaluateCritical_cons (passes : (c.judge row file).1 ≠ .ok false) :
    evaluateCritical index row next (c :: rules) file =
      ((finding? c index row (c.judge row file).1).toList ++
          (evaluateCritical index row next rules (c.judge row file).2).1,
        (evaluateCritical index row next rules (c.judge row file).2).2) := by
  rw [evaluateCritical]
  cases judged : c.judge row file with
  | mk result file' =>
    rw [judged] at passes
    cases result with
    | error e => rfl
    | ok b =>
      cases b with
      | true => rfl
      | false => exact absurd rfl passes

/-- If no rule fails, all are evaluated, and what comes next is. -/
theorem evaluateCritical_of_noneFails (h : NoneFails row rules file) :
    evaluateCritical index row next rules file =
      (findings index row rules file ++ (next (fileAfter row rules file)).1, (next (fileAfter row rules file)).2) := by
  induction rules generalizing file with
  | nil => rfl
  | cons c rest ih =>
    obtain ⟨passes, others⟩ := noneFails_cons.mp h
    rw [evaluateCritical_cons passes, ih others, findings_cons, List.append_assoc, fileAfter]

/-- The first rule that fails leaves the last violation, and no rule behind it is judged. -/
theorem evaluateCritical_of_failsFirst (h : FailsFirst row file earlier c) (later : List CompiledRule) :
    evaluateCritical index row next (earlier ++ c :: later) file =
      (findings index row earlier file ++ [broken c index row], (c.judge row (fileAfter row earlier file)).2) := by
  obtain ⟨before, fails⟩ := h
  induction earlier generalizing file with
  | nil =>
    change (c.judge row file).1 = .ok false at fails
    rw [List.nil_append, evaluateCritical]
    cases judged : c.judge row file with
    | mk result file' =>
      rw [judged] at fails
      cases fails
      rw [fileAfter, judged]
      rfl
  | cons d rest ih =>
    obtain ⟨passes, others⟩ := noneFails_cons.mp before
    rw [List.cons_append, evaluateCritical_cons passes, ih others fails, findings_cons, List.append_assoc, fileAfter]

/-- Either no rule fails, or one of them is the first to fail. -/
theorem noneFails_or_failsFirst (row : Record Value) (rules : List CompiledRule) (file : FileState) :
    NoneFails row rules file ∨ ∃ earlier c later, rules = earlier ++ c :: later ∧ FailsFirst row file earlier c := by
  induction rules generalizing file with
  | nil => exact .inl noneFails_nil
  | cons c rest ih =>
    by_cases fails : (c.judge row file).1 = .ok false
    · exact .inr ⟨[], c, rest, rfl, noneFails_nil, fails⟩
    · rcases ih (c.judge row file).2 with none | ⟨earlier, d, later, rfl, before, failsLater⟩
      · exact .inl (noneFails_cons.mpr ⟨fails, none⟩)
      · exact .inr ⟨c :: earlier, d, later, rfl, noneFails_cons.mpr ⟨fails, before⟩, failsLater⟩

/-! ## Plans -/

/-- The rules stand in the groups of their severities, as far as critical ones go. -/
structure Grouped (p : RulePlan) : Prop where
  critical : ∀ c ∈ p.critical, c.severity = .critical
  others : ∀ c ∈ p.warning ++ p.info, c.severity ≠ .critical

theorem BySeverity.grouped {p : RulePlan} (h : p.BySeverity) : p.Grouped := by
  refine ⟨h .critical, fun c mem => ?_⟩
  rcases List.mem_append.mp mem with warning | info
  · rw [h .warning c warning]
    decide
  · rw [h .info c info]
    decide

/-- **Every plan that is built is grouped**, whatever the cache holds. -/
theorem build_grouped (rules : List Rule) (schema : Schema) (cache : RuleCache) :
    (build rules schema cache).1.Grouped := (build_bySeverity rules schema cache).grouped

variable {p : RulePlan}

/-- Without a failure among the critical rules there is no critical violation. -/
theorem Grouped.soft_of_noneFails (h : p.Grouped) (none : NoneFails row p.critical file) {v : Violation}
    (found : v ∈ (p.evaluate index row file).1) : v.severity ≠ .critical := by
  rw [evaluate, evaluateCritical_of_noneFails none, evaluateAll_eq, List.mem_append] at found
  rcases found with first | second
  · obtain ⟨d, -, e, -, rfl⟩ := none.unevaluated first
    intro same
    cases same
  · obtain ⟨⟨d, result⟩, judged, finding⟩ := of_mem_findings second
    have soft := (of_finding? finding).2 (h.others d (mem_of_mem_trace judged))
    exact beq_eq_false_iff_ne.mp soft

/--
**A critical violation is the last of its row, and the only rule of the row found broken.** It is that of the
first critical rule that does not hold. What stands before it, if anything does, are warnings of critical rules
that come before that rule, each of which was judged and could not be evaluated.
-/
theorem evaluate_fast_fail (rules : List Rule) (schema : Schema) (cache : RuleCache) (index : Nat)
    (row : Record Value) (file : FileState) {v : Violation}
    (found : v ∈ ((build rules schema cache).1.evaluate index row file).1) (critical : v.severity = .critical) :
    ∃ earlier c later warnings, (build rules schema cache).1.critical = earlier ++ c :: later ∧
      FailsFirst row file earlier c ∧ v = broken c index row ∧
      ((build rules schema cache).1.evaluate index row file).1 = warnings ++ [v] ∧
      (((build rules schema cache).1.evaluate index row file).1.filter (·.kind = .rule)) = [v] ∧
      ∀ w ∈ warnings, w.severity = .warning ∧ w.kind = .evaluationError ∧
        ∃ d ∈ earlier, d.severity = .critical ∧ ∃ e, (d, .error e) ∈ trace row earlier file ∧
          w = unevaluated d index e := by
  have grouped := build_grouped rules schema cache
  generalize (build rules schema cache).1 = p at found grouped
  rcases noneFails_or_failsFirst row p.critical file with none | ⟨earlier, c, later, split, first⟩
  · exact absurd critical (grouped.soft_of_noneFails none found)
  · have evaluated : (p.evaluate index row file).1 = findings index row earlier file ++ [broken c index row] := by
      rw [evaluate, split, evaluateCritical_of_failsFirst first]
    have warnings : ∀ w ∈ findings index row earlier file, w.severity = .warning ∧ w.kind = .evaluationError ∧
        ∃ d ∈ earlier, d.severity = .critical ∧ ∃ e, (d, .error e) ∈ trace row earlier file ∧
          w = unevaluated d index e := by
      intro w hw
      obtain ⟨d, hd, e, judged, rfl⟩ := first.before.unevaluated hw
      exact ⟨rfl, rfl, d, hd, grouped.critical d (split ▸ List.mem_append_left _ hd), e, judged, rfl⟩
    have same : v = broken c index row := by
      rw [evaluated, List.mem_append, List.mem_singleton] at found
      rcases found with warning | same
      · rw [(warnings v warning).1] at critical
        cases critical
      · exact same
    subst same
    refine ⟨earlier, c, later, _, split, first, rfl, evaluated, ?_, warnings⟩
    have noRule : (findings index row earlier file).filter (·.kind = .rule) = [] := by
      refine List.filter_eq_nil_iff.mpr fun w hw isRule => ?_
      rw [(warnings w hw).2.1] at isRule
      cases of_decide_eq_true isRule
    rw [evaluated, List.filter_append, noRule, List.nil_append]
    rfl

/-- The first of two critical rules cannot be evaluated, and the second does not hold. -/
theorem evaluate_fast_fail_second :
    let schema : Schema := ⟨.sales, [⟨"amount", .decimal, false, []⟩, ⟨"quantity", .decimal, false, []⟩], .empty⟩
    let rule (id expression : String) : Rule :=
      ⟨id, .sales, .range, expression, .critical, "", true, 1, "", none, none⟩
    let p := (build [rule "R1" "amount > 0", rule "R2" "quantity > 0"] schema (.new .standard RuleCache.spread)).1
    let row : Record Value := .ofList [("amount", .null), ("quantity", .number .zero)]
    let v : Violation := ⟨1, "R2", .critical, .rule, "rule R2 failed: quantity > 0"⟩
    v ∈ (p.evaluate 1 row (.start .epoch)).1 ∧ v.severity = .critical ∧
      ∃ earlier c later warnings, p.critical = earlier ++ c :: later ∧
        FailsFirst row (.start .epoch) earlier c ∧ v = broken c 1 row ∧
        (p.evaluate 1 row (.start .epoch)).1 = warnings ++ [v] ∧
        ((p.evaluate 1 row (.start .epoch)).1.filter (·.kind = .rule)) = [v] ∧
        ∀ w ∈ warnings, w.severity = .warning ∧ w.kind = .evaluationError ∧
          ∃ d ∈ earlier, d.severity = .critical ∧ ∃ e, (d, .error e) ∈ trace row earlier (.start .epoch) ∧
            w = unevaluated d 1 e := by
  intro schema rule p row v
  have found : v ∈ (p.evaluate 1 row (.start .epoch)).1 := by
    have planned : p = ofOrdered schema _ _ :=
      build_of_ascending (RuleCache.reachable_new .standard RuleCache.spread) rfl (by decide) schema
    rw [planned]
    decide +kernel
  exact ⟨found, rfl, evaluate_fast_fail _ schema _ 1 row (.start .epoch) found rfl⟩

/-- There the critical violation is not the only one of the row. -/
theorem evaluate_warning_beside_critical :
    let schema : Schema := ⟨.sales, [⟨"amount", .decimal, false, []⟩, ⟨"quantity", .decimal, false, []⟩], .empty⟩
    let rule (id expression : String) : Rule :=
      ⟨id, .sales, .range, expression, .critical, "", true, 1, "", none, none⟩
    let p := (build [rule "R1" "amount > 0", rule "R2" "quantity > 0"] schema (.new .standard RuleCache.spread)).1
    let row : Record Value := .ofList [("amount", .null), ("quantity", .number .zero)]
    let found := (p.evaluate 1 row (.start .epoch)).1
    found = [⟨1, "R1", .warning, .evaluationError, "rule R1 could not be evaluated: null operand in >"⟩,
        ⟨1, "R2", .critical, .rule, "rule R2 failed: quantity > 0"⟩] ∧
      ¬ ∀ v ∈ found, v.severity = .critical → found = [v] := by
  intro schema rule p row found
  have planned : p = ofOrdered schema _ _ :=
    build_of_ascending (RuleCache.reachable_new .standard RuleCache.spread) rfl (by decide) schema
  have both : found = [⟨1, "R1", .warning, .evaluationError, "rule R1 could not be evaluated: null operand in >"⟩,
      ⟨1, "R2", .critical, .rule, "rule R2 failed: quantity > 0"⟩] := by
    unfold found
    rw [planned]
    decide +kernel
  refine ⟨both, fun only => ?_⟩
  rw [both] at only
  have alone := only _ (List.mem_cons_of_mem _ List.mem_cons_self) rfl
  exact absurd (congrArg List.length alone) (by decide)

end RecordGate.RulePlan
