import Mathlib.Data.List.Forall2
import RecordGate.Proofs.Rule.Findings
import RecordGate.Proofs.Rule.Planning

/-!
# Checking rules before they are used

Rules are checked against a schema one by one and without a cache; a plan takes them in the order of their ids
and through a cache that may hold few of them. Both decide alike about every rule (`Rule.told_alike`). So a check
tells of the rules that a plan leaves out for a fault, and of no others: rules that pass it are in the plan or
inactive (`checkRules_agreesWith_build`).
-/

namespace RecordGate

/-! ## The rules that issues name -/

/-- The id in the path of an issue about a rule: what stands between `/rules/` and the last slash. -/
def Issue.ruleId (i : Issue) : String :=
  String.ofList (((i.path.toList.drop 7).reverse.dropWhile (· ≠ '/')).drop 1).reverse

/-- An id is found in a path whatever slashes it has of its own. -/
theorem Issue.ruleId_of_path {i : Issue} {id member : String} {name : List Char}
    (path : i.path = "/rules/" ++ id ++ member) (last : member.toList = '/' :: name) (noSlash : '/' ∉ name) :
    i.ruleId = id := by
  have front : "/rules/".toList = ['/', 'r', 'u', 'l', 'e', 's', '/'] := rfl
  have passed : ∀ c ∈ name.reverse, decide (c ≠ '/') = true := fun c hc =>
    decide_eq_true fun slash => noSlash (slash ▸ List.mem_reverse.mp hc)
  have behind : (id.toList ++ '/' :: name).reverse = name.reverse ++ '/' :: id.toList.reverse := by simp
  rw [ruleId, path, String.toList_append, String.toList_append, front, last]
  change String.ofList (((id.toList ++ '/' :: name).reverse.dropWhile _).drop 1).reverse = id
  rw [behind, List.dropWhile_append_of_pos passed]
  simp

/-- An issue of a check and a warning of a plan tell the same of the same rule. -/
structure Issue.Alike (i : Issue) (w : RuleWarning) : Prop where
  ruleId : i.ruleId = w.ruleId
  code : i.code = w.code
  /-- Of a rule of another record type each says what it is used on. -/
  reason : i.code = "record_type_mismatch" ∨ i.code = "compile_error" ∧ i.message = w.message

/-! ## One rule -/

section OneRule

variable (schema : Schema) (r : Rule)

/-- What becomes of a rule: its record type is looked at first, and an inactive rule is not compiled. -/
theorem Rule.cases_under : r.recordType ≠ schema.recordType ∨ r.recordType = schema.recordType ∧ (r.active = false ∨
    r.active = true ∧ ((∃ c, r.compile schema = .ok c) ∨ ∃ e, r.compile schema = .error e)) := by
  by_cases same : r.recordType = schema.recordType
  · cases active : r.active with
    | false => exact .inr ⟨same, .inl rfl⟩
    | true =>
      cases compiled : r.compile schema with
      | ok c => exact .inr ⟨same, .inr ⟨rfl, .inl ⟨c, rfl⟩⟩⟩
      | error e => exact .inr ⟨same, .inr ⟨rfl, .inr ⟨e, rfl⟩⟩⟩
  · exact .inl same

/-- **A check and a plan tell the same of a rule**, or neither tells anything. -/
theorem Rule.told_alike : List.Forall₂ Issue.Alike (checkRule schema r).errors (r.warning? schema).toList := by
  rcases r.cases_under schema with other | ⟨same, inactive | ⟨active, ⟨c, compiled⟩ | ⟨e, failed⟩⟩⟩
  · rw [checkRule, warning?, if_pos other, if_pos other]
    exact .cons ⟨Issue.ruleId_of_path rfl rfl (by decide), rfl, .inl rfl⟩ .nil
  · simp [checkRule, warning?, same, inactive, Report.empty]
  · simp [checkRule, warning?, same, active, compiled, Report.empty]
  · have issue : (checkRule schema r).errors = [⟨true, "compile_error", s!"/rules/{r.id}/expression", e.message,
        some s!"expression: {r.expression}"⟩] := by simp [checkRule, same, active, failed]
    have warning : r.warning? schema = some ⟨r.id, "compile_error", e.message⟩ := by
      simp [warning?, same, active, failed]
    rw [issue, warning]
    exact .cons ⟨Issue.ruleId_of_path rfl rfl (by decide), rfl, .inr ⟨rfl, rfl⟩⟩ .nil

/-- A rule counts once: in the group of its severity, as inactive, or as a fault. -/
theorem Rule.counts_once :
    (r.compiledFor? schema .critical).toList.length + (r.compiledFor? schema .warning).toList.length +
      (r.compiledFor? schema .info).toList.length +
      (if r.recordType = schema.recordType ∧ r.active = false then 1 else 0) + (checkRule schema r).errors.length = 1 := by
  rcases r.cases_under schema with other | ⟨same, inactive | ⟨active, ⟨c, compiled⟩ | ⟨e, failed⟩⟩⟩
  · simp [checkRule, compiledFor?, other, Report.single]
  · simp [checkRule, compiledFor?, same, inactive, Report.empty]
  · cases severity : r.severity <;>
      simp [checkRule, compiledFor?, same, active, compiled, severity, Report.empty, Except.toOption]
  · simp [checkRule, compiledFor?, same, active, failed, Except.toOption]

end OneRule

/-! ## All rules -/

section AllRules

variable {schema : Schema} {rules ordered : List Rule} {issues : List Issue} {warnings : List RuleWarning}

theorem errors_checkRules (rules : List Rule) (schema : Schema) :
    (checkRules rules schema).errors = rules.flatMap fun r => (checkRule schema r).errors := by
  induction rules with
  | nil => rfl
  | cons r rest ih => exact congrArg ((checkRule schema r).errors ++ ·) ih

/-- In the order of a plan, a check tells what the plan tells. -/
theorem told_alike_ordered (schema : Schema) (ordered : List Rule) :
    List.Forall₂ Issue.Alike (checkRules ordered schema).errors (ordered.filterMap (·.warning? schema)) := by
  rw [errors_checkRules, List.filterMap_eq_flatMap_toList]
  induction ordered with
  | nil => exact .nil
  | cons r rest ih => exact List.rel_append (r.told_alike schema) ih

/-- What alike findings of one code tell. -/
theorem map_filter_of_alike {α : Type} {code : String} {ofIssue : Issue → α} {ofWarning : RuleWarning → α}
    (alike : List.Forall₂ Issue.Alike issues warnings)
    (same : ∀ i w, i.Alike w → i.code = code → ofIssue i = ofWarning w) :
    (issues.filter (·.code = code)).map ofIssue = (warnings.filter (·.code = code)).map ofWarning := by
  induction alike with
  | nil => rfl
  | @cons i w _ _ first _ ih =>
    rw [List.filter_cons, List.filter_cons, first.code]
    split
    · next here =>
      rw [List.map_cons, List.map_cons, same i w first (first.code.trans (of_decide_eq_true here)), ih]
    · exact ih

/-- Every rule is in the plan, inactive or at fault. -/
theorem size_ofOrdered (schema : Schema) (fingerprint : String) (ordered : List Rule) :
    let p := RulePlan.ofOrdered schema fingerprint ordered
    p.size + p.inactive + (checkRules ordered schema).errors.length = ordered.length := by
  intro p
  simp only [p, RulePlan.ofOrdered, RulePlan.size, RulePlan.rules, List.length_append, errors_checkRules,
    List.filterMap_eq_flatMap_toList]
  induction ordered with
  | nil => rfl
  | cons r rest ih =>
    have once := r.counts_once schema
    simp only [List.flatMap_cons, List.countP_cons, List.length_append, List.length_cons, decide_eq_true_eq]
    omega

/-- A check of rules names the rules that a plan of them warns of, and every rule is accounted for. -/
structure Report.AgreesWith (report : Report) (p : RulePlan) (count : Nat) : Prop where
  mismatched : ((report.errors.filter (·.code = "record_type_mismatch")).map (·.ruleId)).Perm
    ((p.warnings.filter (·.code = "record_type_mismatch")).map (·.ruleId))
  uncompiled : ((report.errors.filter (·.code = "compile_error")).map fun i => (i.ruleId, i.message)).Perm
    ((p.warnings.filter (·.code = "compile_error")).map fun w => (w.ruleId, w.message))
  /-- There is no fault of another code. -/
  codes : ∀ i ∈ report.errors, i.code = "record_type_mismatch" ∨ i.code = "compile_error"
  counted : p.size + p.inactive + report.errors.length = count

theorem agreesWith_ofOrdered (perm : ordered.Perm rules) (fingerprint : String) :
    (checkRules rules schema).AgreesWith (.ofOrdered schema fingerprint ordered) rules.length := by
  have reordered : (checkRules rules schema).errors.Perm (checkRules ordered schema).errors := by
    rw [errors_checkRules, errors_checkRules]
    exact perm.symm.flatMap_right _
  have alike := told_alike_ordered schema ordered
  have counted := size_ofOrdered schema fingerprint ordered
  refine ⟨?_, ?_, fun i found => ?_, ?_⟩
  · exact ((reordered.filter _).map _).trans (.of_eq (map_filter_of_alike alike fun _ _ same _ => same.ruleId))
  · refine ((reordered.filter _).map _).trans (.of_eq (map_filter_of_alike alike fun i w same failed => ?_))
    rcases same.reason with other | ⟨-, message⟩
    · exact absurd (other.symm.trans failed) (by decide)
    · rw [same.ruleId, message]
  · obtain ⟨n, hn, rfl⟩ := List.getElem_of_mem (reordered.mem_iff.mp found)
    exact (alike.get hn (alike.length_eq ▸ hn)).reason.imp_right And.left
  · rw [reordered.length_eq, ← perm.length_eq]
    exact counted

end AllRules

/--
**A check of rules agrees with the plan that they make.** Let no two rules have one id, and let the plan be built
through an empty cache of any size. The check names as of another record type the rules of which the plan warns for
this, and likewise the rules that do not compile, with the same message; it finds no other fault. Each rule is in
the plan, inactive, or named by the check.
-/
theorem checkRules_agreesWith_build {cache : RuleCache} (reachable : cache.Reachable) (empty : cache.size = 0)
    {rules : List Rule} (distinct : (rules.map Rule.id).Nodup) (schema : Schema) :
    (checkRules rules schema).AgreesWith (RulePlan.build rules schema cache).1 rules.length := by
  rw [RulePlan.build_eq_ofOrdered reachable empty distinct schema]
  exact agreesWith_ofOrdered (List.mergeSort_perm rules fun a b => a.id ≤ b.id) _

/-- Two rules at fault, one of them with slashes in its id, an inactive one, and two for a cache with room for one. -/
theorem checkRules_agreesWith_build_two_faults :
    let schema : Schema := ⟨.sales, [⟨"amount", .decimal, true, []⟩], .empty⟩
    let rule (id expression : String) (active : Bool) (recordType : RecordType) : Rule :=
      ⟨id, recordType, .range, expression, .warning, "", active, 1, "", none, none⟩
    let rules := [rule "R5" "amount > 5" true .sales, rule "R/4" "amount >" true .sales, rule "R3" "amount >" false .sales,
      rule "R2" "amount > 2" true .sales, rule "R1" "amount > 1" false .expense]
    (rules.map Rule.id).Nodup ∧
      (checkRules rules schema).errors.map (fun i => (i.ruleId, i.code)) =
        [("R/4", "compile_error"), ("R1", "record_type_mismatch")] ∧
      (checkRules rules schema).AgreesWith (RulePlan.build rules schema (.new ⟨1, 1⟩ RuleCache.spread)).1 5 := by
  intro schema rule rules
  have distinct : (rules.map Rule.id).Nodup := by decide
  refine ⟨distinct, by decide +kernel, ?_⟩
  exact checkRules_agreesWith_build (RuleCache.reachable_new ⟨1, 1⟩ RuleCache.spread) rfl distinct schema

end RecordGate
