import RecordGate.Batch.Outcome
import RecordGate.Proofs.Expr.Recording
import RecordGate.Proofs.FileState

/-!
# Rules that do not invalidate are isolated

All rules of a file record their tuples in one set of keys, and a key tells its rule
(`FileState.key_eq_iff`). So what a rule records is seen by no rule of another id: two files that agree but
for the keys of one rule give the other rules the same judgements (`CompiledRule.judge_agree`).

A warning or an information is evaluated after every critical rule and ends nothing. A plan to which such
a rule is added finds on every row what it found before, and what the rule itself finds leaves the row as
valid as it was (`RulePlan.evaluateRows_isolated`).
-/

namespace RecordGate

/-! ## Files that agree but for one rule -/

/-- The files have the same date and the same keys of all other rules. -/
structure FileState.AgreeBut (id : String) (s t : FileState) : Prop where
  asOf : s.asOf = t.asOf
  met : ∀ ruleId site values, ruleId ≠ id → (s.Met ruleId site values ↔ t.Met ruleId site values)

namespace FileState.AgreeBut

variable {id : String} {s t : FileState}

theorem refl (s : FileState) : AgreeBut id s s := ⟨rfl, fun _ _ _ _ => Iff.rfl⟩

/-- Another rule gets the same answer from both files, and they still agree. -/
theorem record (h : AgreeBut id s t) {ruleId : String} (other : ruleId ≠ id) (site : Nat) (values : List Value) :
    (s.record ruleId site values).1 = (t.record ruleId site values).1 ∧
      AgreeBut id (s.record ruleId site values).2 (t.record ruleId site values).2 := by
  constructor
  · refine Bool.eq_iff_iff.mpr (not_iff_not.mp ?_)
    rw [Bool.not_eq_true, Bool.not_eq_true, record_fresh, record_fresh]
    exact h.met ruleId site values other
  · refine ⟨h.asOf, fun r n vs different => ?_⟩
    rw [met_record, met_record, h.met r n vs different]

/-- What the rule itself records is no matter. -/
theorem record_own (h : AgreeBut id s t) (site : Nat) (values : List Value) :
    AgreeBut id s (t.record id site values).2 := by
  refine ⟨h.asOf, fun r n vs different => ?_⟩
  have otherKey : key id site values ≠ key r n vs := fun same => different (key_eq_iff.mp same).1.symm
  rw [met_record, h.met r n vs different]
  exact (or_iff_right otherKey).symm

end FileState.AgreeBut

namespace CompiledRule

variable {id : String} {c : CompiledRule} {s t : FileState}

/-- A rule of another id is judged alike in files that agree but for one rule. -/
theorem judge_agree (other : c.id ≠ id) (row : Record Value) (h : FileState.AgreeBut id s t) :
    (c.judge row s).1 = (c.judge row t).1 ∧ FileState.AgreeBut id (c.judge row s).2 (c.judge row t).2 := by
  have sim : Sim (FileState.AgreeBut id) (c.predicate.evalWith (FileState.recorder c.id) row)
      (c.predicate.evalWith (FileState.recorder c.id) row) :=
    Expr.sim_evalWith (fun _ _ agree => agree.asOf) fun node _ _ values _ _ _ agree =>
      agree.record other node.site values
  rw [judge, judge, Expr.holds_eq, Expr.holds_eq]
  exact Expr.holdsWith_sim sim h

/-- Judging the rule itself changes nothing but its own keys. -/
theorem judge_own (row : Record Value) (h : FileState.AgreeBut c.id s t) :
    FileState.AgreeBut c.id s (c.judge row t).2 := by
  rw [judge, Expr.holds_eq]
  exact Expr.holdsWith_keeps (fun node _ _ values _ _ agree => agree.record_own node.site values) h

end CompiledRule

/-! ## Findings that agree but for one rule -/

/-- The second findings are the first with findings of one rule between, none of which is critical. -/
structure AgreeBut (id : String) (vs ws : List Violation) : Prop where
  others : ws.filter (·.ruleId ≠ id) = vs
  own : ∀ v ∈ ws, v.ruleId = id → v.severity.invalidates = false

namespace AgreeBut

variable {id : String} {vs ws : List Violation}

theorem nil : AgreeBut id [] [] := ⟨rfl, nofun⟩

theorem cons (h : AgreeBut id vs ws) {v : Violation} (other : v.ruleId ≠ id) : AgreeBut id (v :: vs) (v :: ws) where
  others := by rw [List.filter_cons_of_pos (by simpa using other), h.others]
  own := List.forall_mem_cons.mpr ⟨fun same => absurd same other, h.own⟩

theorem cons_own (h : AgreeBut id vs ws) {v : Violation} (same : v.ruleId = id)
    (soft : v.severity.invalidates = false) : AgreeBut id vs (v :: ws) where
  others := by rw [List.filter_cons_of_neg (by simpa using same), h.others]
  own := List.forall_mem_cons.mpr ⟨fun _ => soft, h.own⟩

/-- A row is as valid with the second findings as with the first. -/
theorem isValid_eq (h : AgreeBut id vs ws) (row : Nat) (errors : List FieldError) :
    (RowOutcome.of row errors ws).isValid = (RowOutcome.of row errors vs).isValid := by
  have same : ws.any (·.severity.invalidates) = vs.any (·.severity.invalidates) := by
    rw [← h.others, Bool.eq_iff_iff, List.any_eq_true, List.any_eq_true]
    constructor
    · rintro ⟨v, hv, invalid⟩
      refine ⟨v, List.mem_filter.mpr ⟨hv, decide_eq_true fun own => ?_⟩, invalid⟩
      exact Bool.false_ne_true ((h.own v hv own).symm.trans invalid)
    · rintro ⟨v, hv, invalid⟩
      exact ⟨v, List.mem_of_mem_filter hv, invalid⟩
  rw [RowOutcome.of, RowOutcome.of, same]

end AgreeBut

/-! ## Plans -/

namespace RulePlan

/-- What judging a rule has found. -/
def finding? (c : CompiledRule) (index : Nat) (row : Record Value) : Except EvalError Bool → Option Violation
  | .ok true => none
  | .ok false => some (broken c index row)
  | .error e => some (unevaluated c index e)

variable {id : String} {c w : CompiledRule} {index : Nat} {row : Record Value} {rules before after : List CompiledRule}
  {s t : FileState}

theorem evaluateAll_cons : evaluateAll index row (c :: rules) s =
    ((finding? c index row (c.judge row s).1).toList ++ (evaluateAll index row rules (c.judge row s).2).1,
      (evaluateAll index row rules (c.judge row s).2).2) := by
  rw [evaluateAll]
  cases c.judge row s with
  | mk result file =>
    cases result with
    | error e => rfl
    | ok b => cases b <;> rfl

/-- A finding is one of its rule, and critical only if the rule is. -/
theorem of_finding? {result : Except EvalError Bool} {v : Violation} (h : finding? c index row result = some v) :
    v.ruleId = c.id ∧ (c.severity ≠ .critical → v.severity.invalidates = false) := by
  cases result with
  | error e =>
    cases h
    exact ⟨rfl, fun _ => rfl⟩
  | ok b =>
    cases b with
    | true => cases h
    | false =>
      cases h
      exact ⟨rfl, fun soft => beq_eq_false_iff_ne.mpr soft⟩

/-- A pair of evaluations whose findings and files agree but for one rule. -/
def Agree (id : String) (x y : List Violation × FileState) : Prop :=
  AgreeBut id x.1 y.1 ∧ FileState.AgreeBut id x.2 y.2

/-- Rules agree when they do after a first one that has another id. -/
theorem Agree.cons {rules' : List CompiledRule} (other : c.id ≠ id)
    (rest : ∀ s t, FileState.AgreeBut id s t →
      Agree id (evaluateAll index row rules s) (evaluateAll index row rules' t))
    (h : FileState.AgreeBut id s t) :
    Agree id (evaluateAll index row (c :: rules) s) (evaluateAll index row (c :: rules') t) := by
  obtain ⟨same, agree⟩ := CompiledRule.judge_agree other row h
  obtain ⟨later, files⟩ := rest _ _ agree
  rw [evaluateAll_cons, evaluateAll_cons, same]
  refine ⟨?_, files⟩
  cases found : finding? c index row (c.judge row t).1 with
  | none => exact later
  | some v => exact later.cons fun own => other ((of_finding? found).1.symm.trans own)

theorem evaluateAll_agree (index : Nat) (row : Record Value) (others : ∀ c ∈ rules, c.id ≠ id)
    (h : FileState.AgreeBut id s t) :
    Agree id (evaluateAll index row rules s) (evaluateAll index row rules t) := by
  induction rules generalizing s t with
  | nil => exact ⟨.nil, h⟩
  | cons c rest ih =>
    obtain ⟨other, others⟩ := List.forall_mem_cons.mp others
    exact Agree.cons other (fun _ _ => ih others) h

/-- The rule may stand anywhere among the others. -/
theorem evaluateAll_insert (soft : w.severity ≠ .critical) (others : ∀ c ∈ before ++ after, c.id ≠ w.id)
    (h : FileState.AgreeBut w.id s t) :
    Agree w.id (evaluateAll index row (before ++ after) s) (evaluateAll index row (before ++ w :: after) t) := by
  induction before generalizing s t with
  | nil =>
    -- The rule stands here: the second file gains keys of its own, and the rest is evaluated on both.
    obtain ⟨later, files⟩ := evaluateAll_agree index row others (CompiledRule.judge_own row h)
    rw [List.nil_append, List.nil_append, evaluateAll_cons]
    refine ⟨?_, files⟩
    cases found : finding? w index row (w.judge row t).1 with
    | none => exact later
    | some v => exact later.cons_own (of_finding? found).1 ((of_finding? found).2 soft)
  | cons c rest ih =>
    obtain ⟨other, others⟩ := List.forall_mem_cons.mp others
    exact Agree.cons other (fun _ _ => ih others) h

/-- Critical rules come first, and what follows them agrees when it does from files that agree. -/
theorem evaluateCritical_agree {next next' : FileState → List Violation × FileState}
    (others : ∀ c ∈ rules, c.id ≠ id)
    (agree : ∀ s t, FileState.AgreeBut id s t → Agree id (next s) (next' t)) (h : FileState.AgreeBut id s t) :
    Agree id (evaluateCritical index row next rules s) (evaluateCritical index row next' rules t) := by
  induction rules generalizing s t with
  | nil => exact agree s t h
  | cons c rest ih =>
    obtain ⟨other, others⟩ := List.forall_mem_cons.mp others
    obtain ⟨same, files⟩ := CompiledRule.judge_agree other row h
    rw [evaluateCritical, evaluateCritical]
    cases left : c.judge row s with
    | mk result s' =>
      cases right : c.judge row t with
      | mk result' t' =>
        rw [left, right] at same files
        cases same
        obtain ⟨later, last⟩ := ih others files
        cases result with
        | error e => exact ⟨later.cons other, last⟩
        | ok b =>
          cases b with
          | true => exact ⟨later, last⟩
          | false => exact ⟨AgreeBut.nil.cons other, files⟩

/-- The plan is another one with a rule added somewhere among the rules that are not critical. -/
structure Extends (q p : RulePlan) (w : CompiledRule) : Prop where
  critical : q.critical = p.critical
  others : ∃ before after, p.warning ++ p.info = before ++ after ∧ q.warning ++ q.info = before ++ w :: after

/-- A rule that is not critical extends the plan it is added to. -/
theorem extends_add (p : RulePlan) (soft : w.severity ≠ .critical) : (p.add w).Extends p w := by
  unfold add
  split
  · next critical => exact absurd critical soft
  · exact ⟨rfl, p.warning, p.info, rfl, List.append_assoc _ _ _⟩
  · exact ⟨rfl, p.warning ++ p.info, [], (List.append_nil _).symm, (List.append_assoc _ _ _).symm⟩

/-- One row: the plan and the extended plan agree but for the rule. -/
theorem evaluate_agree {p q : RulePlan} (index : Nat) (row : Record Value) (soft : w.severity ≠ .critical)
    (others : ∀ c ∈ p.rules, c.id ≠ w.id) (added : q.Extends p w) (h : FileState.AgreeBut w.id s t) :
    Agree w.id (p.evaluate index row s) (q.evaluate index row t) := by
  obtain ⟨before, after, split, insert⟩ := added.others
  rw [RulePlan.rules, List.append_assoc, split] at others
  obtain ⟨critical, rest⟩ := List.forall_mem_append.mp others
  rw [evaluate, evaluate, added.critical, split, insert]
  exact evaluateCritical_agree critical (fun _ _ => evaluateAll_insert soft rest) h

/-- The violations of numbered rows, evaluated one after the other. -/
def evaluateRows (p : RulePlan) : List (Nat × Record Value) → FileState → List (List Violation)
  | [], _ => []
  | (index, row) :: rest, file =>
    let (violations, file) := p.evaluate index row file
    violations :: evaluateRows p rest file

theorem evaluateRows_agree {p q : RulePlan} (soft : w.severity ≠ .critical) (others : ∀ c ∈ p.rules, c.id ≠ w.id)
    (added : q.Extends p w) (rows : List (Nat × Record Value)) (h : FileState.AgreeBut w.id s t) :
    List.Forall₂ (AgreeBut w.id) (p.evaluateRows rows s) (q.evaluateRows rows t) := by
  induction rows generalizing s t with
  | nil => exact .nil
  | cons row rest ih =>
    obtain ⟨findings, files⟩ := evaluate_agree row.1 row.2 soft others added h
    exact .cons findings (ih files)

/--
**Rules that do not invalidate are isolated.** Add a warning or an information to a plan that has no rule
of its id, at any place of its group. Then on every row of a file the violations of the other rules are
the same, in the same order, and whatever the errors of its fields, the row is as valid as before.
-/
theorem evaluateRows_isolated {p q : RulePlan} {w : CompiledRule} (soft : w.severity ≠ .critical)
    (other : ∀ c ∈ p.rules, c.id ≠ w.id) (added : q.Extends p w) (asOf : Date) (rows : List (Nat × Record Value)) :
    List.Forall₂ (fun without with_ : List Violation =>
        (∀ v ∈ without, v.ruleId ≠ w.id) ∧ with_.filter (·.ruleId ≠ w.id) = without ∧
          ∀ row errors, (RowOutcome.of row errors with_).isValid = (RowOutcome.of row errors without).isValid)
      (p.evaluateRows rows (.start asOf)) (q.evaluateRows rows (.start asOf)) := by
  refine (evaluateRows_agree soft other added rows (.refl _)).imp fun without with_ agree => ?_
  refine ⟨fun v hv => ?_, agree.others, agree.isValid_eq⟩
  rw [← agree.others] at hv
  exact of_decide_eq_true (List.mem_filter.mp hv).2

/-- Written without escapes, the key of the warning on the first row is that of the rule on the second. -/
theorem evaluateRows_isolated_bars :
    let c : CompiledRule := ⟨"R|0", .sales, .business, .critical, "", "", ⟨0, ""⟩, true,
      .call .unique [.field "b" 0] 1 0⟩
    let w : CompiledRule := ⟨"R", .sales, .business, .warning, "", "", ⟨0, ""⟩, true,
      .call .unique [.field "a" 0] 0 0⟩
    let p := (RulePlan.start .sales "").add c
    let rows : List (Nat × Record Value) := [(1, .ofList [("a", .text "1|x"), ("b", .text "y")]),
      (2, .ofList [("a", .text "z"), ("b", .text "x")])]
    w.severity ≠ .critical ∧ (∀ c ∈ p.rules, c.id ≠ w.id) ∧ (p.add w).Extends p w ∧
      List.Forall₂ (fun without with_ : List Violation =>
          (∀ v ∈ without, v.ruleId ≠ w.id) ∧ with_.filter (·.ruleId ≠ w.id) = without ∧
            ∀ row errors, (RowOutcome.of row errors with_).isValid = (RowOutcome.of row errors without).isValid)
        (p.evaluateRows rows (.start .epoch)) ((p.add w).evaluateRows rows (.start .epoch)) := by
  intro c w p rows
  have soft : w.severity ≠ .critical := by decide
  have other : ∀ c ∈ p.rules, c.id ≠ w.id := by
    intro d hd
    rw [List.mem_singleton.mp hd]
    decide
  have added : (p.add w).Extends p w := p.extends_add soft
  exact ⟨soft, other, added, evaluateRows_isolated soft other added .epoch rows⟩

end RulePlan

end RecordGate
