import RecordGate.Proofs.Rule.FastFail

/-!
# How the rules of a plan are run on a row

A run over rules is told by what each rule was judged on, in which state of the file and with which result
(`RulePlan.Run`): each rule is judged in the state that the one before it left, and a critical rule that does not hold
is the last. Evaluating a plan on a row is such a run over its rules, and its violations are what the judgings have
found, in their order (`RulePlan.evaluate_run`).

Main statement: if a critical rule does not hold, nothing behind the first such rule is judged, and its violation comes
last; otherwise every rule is judged once (`RulePlan.evaluate_executes`).
-/

namespace RecordGate

/-- A rule that is judged, in a state of the file, with the result and the state that it leaves. -/
structure Judging where
  rule : CompiledRule
  before : FileState
  result : Except EvalError Bool
  after : FileState

namespace Judging

/-- The rule was judged on the row. -/
def IsOn (j : Judging) (row : Record Value) : Prop := j.rule.judge row j.before = (j.result, j.after)

/-- The judging ends the run: a critical rule does not hold. -/
def Ends (j : Judging) : Prop := j.rule.severity = .critical ∧ j.result = .ok false

/-- What the judging has found. -/
def finding? (j : Judging) (index : Nat) (row : Record Value) : Option Violation :=
  RulePlan.finding? j.rule index row j.result

end Judging

namespace RulePlan

/-- From a state of a file through the judgings of rules in their order to the state at the end. -/
inductive Run (row : Record Value) : List CompiledRule → FileState → List Judging → FileState → Prop
  | finished {file : FileState} : Run row [] file [] file
  | ended {j : Judging} {rest : List CompiledRule} : j.IsOn row → j.Ends →
      Run row (j.rule :: rest) j.before [j] j.after
  | judged {j : Judging} {rest : List CompiledRule} {later : List Judging} {last : FileState} : j.IsOn row → ¬j.Ends →
      Run row rest j.after later last → Run row (j.rule :: rest) j.before (j :: later) last

variable {index : Nat} {row : Record Value} {file last : FileState} {rules rest : List CompiledRule}
  {log : List Judging} {next : FileState → List Violation × FileState} {c : CompiledRule} {p : RulePlan}

/-! ## Evaluation is a run -/

/-- The violations and the state that a run over the rules gives. -/
def Gives (index : Nat) (row : Record Value) (rules : List CompiledRule) (file : FileState)
    (evaluated : List Violation × FileState) : Prop :=
  ∃ log, Run row rules file log evaluated.2 ∧ evaluated.1 = log.filterMap (·.finding? index row)

/-- A rule that does not end the run goes before what is run after it. -/
theorem Gives.cons {evaluated : List Violation × FileState}
    (goesOn : c.severity = .critical → (c.judge row file).1 ≠ .ok false)
    (h : Gives index row rules (c.judge row file).2 evaluated) :
    Gives index row (c :: rules) file
      ((finding? c index row (c.judge row file).1).toList ++ evaluated.1, evaluated.2) := by
  obtain ⟨log, run, found⟩ := h
  let j : Judging := ⟨c, file, (c.judge row file).1, (c.judge row file).2⟩
  have judged : Run row (c :: rules) file (j :: log) evaluated.2 :=
    .judged (j := j) rfl (fun ends => goesOn ends.1 ends.2) run
  refine ⟨j :: log, judged, ?_⟩
  rw [found, List.filterMap_cons, Judging.finding?]
  cases RulePlan.finding? c index row (c.judge row file).1 <;> rfl

theorem gives_evaluateAll (soft : ∀ c ∈ rules, c.severity ≠ .critical) :
    Gives index row rules file (evaluateAll index row rules file) := by
  induction rules generalizing file with
  | nil => exact ⟨[], .finished, rfl⟩
  | cons c rest ih =>
    obtain ⟨first, others⟩ := List.forall_mem_cons.mp soft
    rw [evaluateAll_cons]
    exact (ih others).cons fun critical => absurd critical first

theorem gives_evaluateCritical (critical : ∀ c ∈ rules, c.severity = .critical)
    (after : ∀ file, Gives index row rest file (next file)) :
    Gives index row (rules ++ rest) file (evaluateCritical index row next rules file) := by
  induction rules generalizing file with
  | nil => exact after file
  | cons c others ih =>
    obtain ⟨first, critical⟩ := List.forall_mem_cons.mp critical
    by_cases fails : (c.judge row file).1 = .ok false
    · have judged : c.judge row file = (.ok false, (c.judge row file).2) := by rw [← fails]
      have evaluated : evaluateCritical index row next (c :: others) file =
          ([broken c index row], (c.judge row file).2) := by
        rw [evaluateCritical, judged]
      let j : Judging := ⟨c, file, .ok false, (c.judge row file).2⟩
      rw [evaluated]
      exact ⟨[j], .ended (j := j) judged ⟨first, rfl⟩, rfl⟩
    · rw [evaluateCritical_cons fails]
      exact (ih critical).cons fun _ => fails

/-- **Evaluating a plan is a run over its rules**, from the critical ones to the informations. -/
theorem gives_evaluate (h : p.BySeverity) (index : Nat) (row : Record Value) (file : FileState) :
    Gives index row p.rules file (p.evaluate index row file) := by
  have others (file : FileState) : Gives index row (p.warning ++ p.info) file
      (evaluateAll index row (p.warning ++ p.info) file) := gives_evaluateAll h.grouped.others
  have run : Gives index row (p.critical ++ (p.warning ++ p.info)) file (p.evaluate index row file) :=
    gives_evaluateCritical h.grouped.critical others
  rwa [← List.append_assoc] at run

/-! ## How a run ends -/

/-- A run ends with the first judging that ends it, or it goes through all rules. -/
theorem Run.ended_or_complete (run : Run row rules file log last) :
    (∃ earlier j later, log = earlier ++ [j] ∧ rules = earlier.map (·.rule) ++ j.rule :: later ∧ j.Ends ∧
        ∀ k ∈ earlier, ¬k.Ends) ∨
      (log.map (·.rule) = rules ∧ ∀ j ∈ log, ¬j.Ends) := by
  induction run with
  | finished => exact .inr ⟨rfl, List.forall_mem_nil _⟩
  | @ended j rest _ ends => exact .inl ⟨[], j, rest, rfl, rfl, ends, List.forall_mem_nil _⟩
  | @judged j rest log last _ goesOn _ ih =>
    rcases ih with ⟨earlier, k, later, rfl, rfl, ends, before⟩ | ⟨rfl, none⟩
    · exact .inl ⟨j :: earlier, k, later, rfl, rfl, ends, List.forall_mem_cons.mpr ⟨goesOn, before⟩⟩
    · exact .inr ⟨rfl, List.forall_mem_cons.mpr ⟨goesOn, none⟩⟩

/-- A rule that is not critical does not stand in front of the critical rules of a plan. -/
theorem BySeverity.critical_of_rules (h : p.BySeverity) {earlier later : List CompiledRule}
    (critical : c.severity = .critical) (split : p.rules = earlier ++ c :: later) :
    ∃ between, p.critical = earlier ++ c :: between := by
  have soft (mem : c ∈ p.warning ++ p.info) : False := h.grouped.others c mem critical
  rw [rules, List.append_assoc] at split
  rcases List.append_eq_append_iff.mp split with ⟨front, -, behind⟩ | ⟨front, group, behind⟩
  · exact (soft (behind ▸ List.mem_append_right front List.mem_cons_self)).elim
  · cases front with
    | nil => exact (soft (behind ▸ List.mem_cons_self)).elim
    | cons d between =>
      cases (List.cons.inj behind).1
      exact ⟨between, group⟩

/-- What is found by judgings that do not fail are rules that could not be evaluated. -/
theorem unevaluated_of_mem_findings {v : Violation} (none : ∀ j ∈ log, j.result ≠ .ok false)
    (found : v ∈ log.filterMap (·.finding? index row)) :
    ∃ j ∈ log, ∃ e, j.result = .error e ∧ v = unevaluated j.rule index e := by
  obtain ⟨j, mem, finding⟩ := List.mem_filterMap.mp found
  have goesOn := none j mem
  unfold Judging.finding? at finding
  cases result : j.result with
  | error e =>
    rw [result] at finding
    exact ⟨j, mem, e, result, (Option.some.inj finding).symm⟩
  | ok holds =>
    rw [result] at finding goesOn
    cases holds with
    | true => cases finding
    | false => exact absurd rfl goesOn

/-- A critical rule does not hold: it is the first such rule, and its judging is the last. -/
structure StopsAt (p : RulePlan) (index : Nat) (row : Record Value) (earlier : List Judging) (j : Judging)
    (violations : List Violation) : Prop where
  rules : ∃ later, p.critical = earlier.map (·.rule) ++ j.rule :: later
  fails : j.result = .ok false
  before : ∀ k ∈ earlier, k.result ≠ .ok false
  /-- The violation of the rule comes last. What stands before it are warnings of rules that could not be evaluated. -/
  last : ∃ warnings, violations = warnings ++ [broken j.rule index row] ∧ ∀ w ∈ warnings, w.severity = .warning ∧
    ∃ k ∈ earlier, ∃ e, k.result = .error e ∧ w = unevaluated k.rule index e

/-- The judgings by which a plan is evaluated on a row. -/
structure Executes (p : RulePlan) (index : Nat) (row : Record Value) (file : FileState) (log : List Judging) :
    Prop where
  /-- Each rule is judged in the state that the one before it left. -/
  run : Run row p.rules file log (p.evaluate index row file).2
  /-- Each judging of a rule that is not found to hold leaves one violation. -/
  found : (p.evaluate index row file).1 = log.filterMap (·.finding? index row)
  /-- A critical rule that does not hold is the last that is judged. If there is none, every rule is judged once. -/
  ending : (∃ earlier j, log = earlier ++ [j] ∧ p.StopsAt index row earlier j (p.evaluate index row file).1) ∨
    (log.map (·.rule) = p.rules ∧ ∀ j ∈ log, j.rule.severity = .critical → j.result ≠ .ok false)

/-- Judgings of which the first to end the run is the last stop at a critical rule. -/
theorem BySeverity.stopsAt (h : p.BySeverity) {earlier : List Judging} {j : Judging} {later : List CompiledRule}
    (split : p.rules = earlier.map (·.rule) ++ j.rule :: later) (ends : j.Ends) (before : ∀ k ∈ earlier, ¬k.Ends) :
    p.StopsAt index row earlier j ((earlier ++ [j]).filterMap (·.finding? index row)) := by
  obtain ⟨critical, fails⟩ := ends
  obtain ⟨between, group⟩ := h.critical_of_rules critical split
  have passes : ∀ k ∈ earlier, k.result ≠ .ok false := by
    intro k mem failed
    have member : k.rule ∈ p.critical := group ▸ List.mem_append_left _ (List.mem_map_of_mem mem)
    exact before k mem ⟨h .critical k.rule member, failed⟩
  have last : j.finding? index row = some (broken j.rule index row) := by
    rw [Judging.finding?, fails]
    rfl
  refine ⟨⟨between, group⟩, fails, passes, earlier.filterMap (·.finding? index row), ?_, ?_⟩
  · rw [List.filterMap_append, List.filterMap_cons, last]
    rfl
  · intro w warning
    obtain ⟨k, mem, e, failed, rfl⟩ := unevaluated_of_mem_findings passes warning
    exact ⟨rfl, k, mem, e, failed, rfl⟩

/--
**How a plan is run on a row.** The rules of a plan that was built stand in the order critical, warning, info, and by
their ids within a severity. Evaluating it judges them one after the other, each in the state that the one before it
left, and each that is not found to hold leaves one violation. If a critical rule does not hold, the first such rule
is the last that is judged: its violation comes last and is the only critical one, and before it stand warnings of
critical rules that could not be evaluated. Otherwise every rule is judged once.
-/
theorem evaluate_executes {cache : RuleCache} (reachable : cache.Reachable) {rules : List Rule}
    (distinct : (rules.map Rule.id).Nodup) (schema : Schema) (index : Nat) (row : Record Value) (file : FileState) :
    let p := (build rules schema cache).1
    p.Arranged ∧ ∃ log, p.Executes index row file log := by
  intro p
  have arranged : p.Arranged := build_arranged reachable distinct schema
  obtain ⟨log, run, found⟩ := gives_evaluate arranged.bySeverity index row file
  refine ⟨arranged, log, run, found, ?_⟩
  rcases run.ended_or_complete with ⟨earlier, j, later, rfl, split, ends, before⟩ | ⟨all, none⟩
  · exact .inl ⟨earlier, j, rfl, found ▸ arranged.bySeverity.stopsAt split ends before⟩
  · exact .inr ⟨all, fun j mem critical fails => none j mem ⟨critical, fails⟩⟩

/--
Of three critical rules the first cannot be evaluated and the second does not hold. The third and the warning would
both record a tuple, and none is recorded.
-/
theorem evaluate_executes_until_failure :
    let schema : Schema := ⟨.sales, [⟨"amount", .decimal, false, []⟩, ⟨"quantity", .decimal, false, []⟩], .empty⟩
    let rule (id expression : String) (severity : Severity) : Rule :=
      ⟨id, .sales, .business, expression, severity, "", true, 1, "", none, none⟩
    let rules := [rule "C1" "amount > 0" .critical, rule "C2" "quantity > 0" .critical,
      rule "C3" "unique(quantity)" .critical, rule "W1" "unique(amount)" .warning]
    let p := (build rules schema (.new .standard RuleCache.spread)).1
    let row : Record Value := .ofList [("amount", .null), ("quantity", .number .zero)]
    (rules.map Rule.id).Nodup ∧ p.rules.map (·.id) = ["C1", "C2", "C3", "W1"] ∧
      (p.evaluate 1 row (.start .epoch)).1.map (fun v => (v.ruleId, v.severity, v.kind)) =
        [("C1", .warning, .evaluationError), ("C2", .critical, .rule)] ∧
      (p.evaluate 1 row (.start .epoch)).2.seenCount = 0 ∧
      p.Arranged ∧ ∃ log, p.Executes 1 row (.start .epoch) log := by
  intro schema rule rules p row
  have reachable := RuleCache.reachable_new .standard RuleCache.spread
  have distinct : (rules.map Rule.id).Nodup := by decide
  have planned : p = ofOrdered schema _ rules := build_of_ascending reachable rfl (by decide) schema
  have executed : p.Arranged ∧ ∃ log, p.Executes 1 row (.start .epoch) log :=
    evaluate_executes reachable distinct schema 1 row (.start .epoch)
  refine ⟨distinct, ?_, ?_, ?_, executed⟩
  · rw [planned]
    decide +kernel
  · rw [planned]
    decide +kernel
  · rw [planned]
    decide +kernel

end RulePlan

end RecordGate
