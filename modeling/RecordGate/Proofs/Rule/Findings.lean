import Mathlib.Data.List.Nodup
import RecordGate.Rule.Document

/-!
# What is found about a set of rules

The content of a rule document has no errors exactly when its rules are sound (`RuleSet.Sound`,
`RuleSet.errors_rulesReport_eq_nil_iff`). Warnings stand in the order of the rules: one for each rule that is inactive
and one for each that has no template (`RuleSet.warnings_rulesReport`).
-/

namespace RecordGate

theorem Report.errors_append (a b : Report) : (a ++ b).errors = a.errors ++ b.errors := rfl

theorem Report.warnings_append (a b : Report) : (a ++ b).warnings = a.warnings ++ b.warnings := rfl

namespace RuleSet

/-! ## Errors -/

/-- No id is blank or used twice, and no expression is blank. -/
structure Sound (rules : List Rule) : Prop where
  ids : ∀ r ∈ rules, Text.isBlankText r.id = false
  distinct : (rules.map Rule.id).Nodup
  expressions : ∀ r ∈ rules, Text.isBlankText r.expression = false

variable {earlier : List String} {position : Nat} {r : Rule} {rules : List Rule}

theorem errors_ruleReport_eq_nil_iff : (ruleReport earlier position r).errors = [] ↔
    Text.isBlankText r.id = false ∧ r.id ∉ earlier ∧ Text.isBlankText r.expression = false := by
  rw [ruleReport, List.append_eq_nil_iff, ← and_assoc]
  refine and_congr ?_ ?_
  · split
    · next blank => simp [blank]
    · next filled =>
      split
      · next used => simp [List.contains_iff_mem.mp used]
      · next fresh => simpa [filled] using fresh
  · split
    · next blank => simp [blank]
    · next filled => simpa using filled

/-- **Rules have no errors** exactly when they are sound and none has an id that was used before them. -/
theorem errors_rulesReport_eq_nil_iff :
    (rulesReport earlier position rules).errors = [] ↔ Sound rules ∧ ∀ r ∈ rules, r.id ∉ earlier := by
  induction rules generalizing earlier position with
  | nil =>
    have none : Sound [] := ⟨List.forall_mem_nil _, List.nodup_nil, List.forall_mem_nil _⟩
    exact ⟨fun _ => ⟨none, List.forall_mem_nil _⟩, fun _ => rfl⟩
  | cons r rest ih =>
    rw [rulesReport, Report.errors_append, List.append_eq_nil_iff, errors_ruleReport_eq_nil_iff, ih]
    constructor
    · rintro ⟨⟨id, fresh, expression⟩, sound, apart⟩
      have distinct : (r.id :: rest.map Rule.id).Nodup := by
        refine List.nodup_cons.mpr ⟨fun mem => ?_, sound.distinct⟩
        obtain ⟨q, inside, same⟩ := List.mem_map.mp mem
        exact apart q inside (List.mem_cons.mpr (.inl same))
      refine ⟨⟨List.forall_mem_cons.mpr ⟨id, sound.ids⟩, distinct,
        List.forall_mem_cons.mpr ⟨expression, sound.expressions⟩⟩, List.forall_mem_cons.mpr ⟨fresh, fun q inside => ?_⟩⟩
      exact List.not_mem_of_not_mem_cons (apart q inside)
    · rintro ⟨sound, apart⟩
      obtain ⟨id, ids⟩ := List.forall_mem_cons.mp sound.ids
      obtain ⟨expression, expressions⟩ := List.forall_mem_cons.mp sound.expressions
      obtain ⟨fresh, others⟩ := List.forall_mem_cons.mp apart
      obtain ⟨unused, distinct⟩ := List.nodup_cons.mp sound.distinct
      refine ⟨⟨id, fresh, expression⟩, ⟨ids, distinct, expressions⟩, fun q inside mem => ?_⟩
      rcases List.mem_cons.mp mem with same | used
      · exact unused (List.mem_map.mpr ⟨q, inside, same⟩)
      · exact others q inside used

/-! ## Warnings -/

/-- The pointer to a member of the rule at a position. -/
def memberPath (position : Nat) (member : String) : String := s!"/rules/{position}/{member}"

def inactiveWarning (position : Nat) (r : Rule) : Issue :=
  ⟨false, "rule_inactive", memberPath position "active", s!"rule '{r.id}' is inactive and will be skipped", none⟩

def templateWarning (position : Nat) (r : Rule) : Issue :=
  ⟨false, "error_message_missing", memberPath position "error_message", s!"rule '{r.id}' has no error_message template",
    some "violations will use a generated message"⟩

/-- One warning if the rule is inactive and one if it has no template. -/
def ruleWarnings (position : Nat) (r : Rule) : List Issue :=
  (if r.active then [] else [inactiveWarning position r]) ++
    if Text.isBlankText r.template then [templateWarning position r] else []

/-- The warnings about rules from a position on, in their order. -/
def warningsFrom (position : Nat) (rules : List Rule) : List Issue :=
  (rules.zipIdx position).flatMap fun (r, position) => ruleWarnings position r

theorem warnings_ruleReport : (ruleReport earlier position r).warnings = ruleWarnings position r := rfl

/-- **The warnings about rules**, whatever ids were used before them. -/
theorem warnings_rulesReport : (rulesReport earlier position rules).warnings = warningsFrom position rules := by
  induction rules generalizing earlier position with
  | nil => rfl
  | cons r rest ih =>
    rw [rulesReport, Report.warnings_append, warnings_ruleReport, ih]
    rfl

/-! ## Documents of the supported form -/

/-- Nothing is found but what is found about the rules. -/
theorem semanticReport_ofRules : (ofRules rules).semanticReport = rulesReport [] 0 rules := by
  have supported : (ofRules rules).contractReport = .empty := if_pos rfl
  rw [semanticReport, supported]
  rfl

theorem isOk_semanticReport_iff : (ofRules rules).semanticReport.isOk = true ↔ Sound rules := by
  rw [semanticReport_ofRules, Report.isOk, List.isEmpty_iff, errors_rulesReport_eq_nil_iff]
  exact and_iff_left fun _ _ => List.not_mem_nil

theorem warnings_semanticReport : (ofRules rules).semanticReport.warnings = warningsFrom 0 rules := by
  rw [semanticReport_ofRules, warnings_rulesReport]

end RuleSet

end RecordGate
