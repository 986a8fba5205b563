import RecordGate.Proofs.Rule.Plans
import RecordGate.Proofs.Sorting

/-!
# The groups of a plan

A plan is built rule after rule, and a rule that is taken in only ever goes to the end of the group of its severity
(`RulePlan.take_group`). So each group holds rules of its severity, whatever the cache holds
(`RulePlan.build_bySeverity`). Where no two rules have one id, the rules of a group stand in ascending order of their
ids, and no id stands twice in the plan (`RulePlan.build_arranged`): what a cache holds may tell the severity of a
rule, but not its id.
-/

namespace RecordGate

variable {cache : RuleCache} {r : Rule} {schema : Schema} {c : CompiledRule}

/-- What a lookup finds has the id that was looked for. -/
theorem RuleCache.Reachable.id_of_compiled (h : cache.Reachable)
    (found : (cache.lookup r schema).1 = .ok (.compiled c)) : c.id = r.id := by
  have id_of_compile {r' : Rule} {schema' : Schema} (compiled : r'.compile schema' = .ok c) : c.id = r'.id := by
    obtain ⟨e, t, -, -, -, rfl⟩ := Rule.compile_ok compiled
    rfl
  obtain ⟨config, assign, ops, rfl⟩ := h
  rcases lookup_origin config assign ops r schema with fresh | ⟨r', schema', k, origin, same, -, cached⟩
  · exact id_of_compile (Rule.uncached_eq_compiled (fresh.symm.trans found))
  · cases cached.symm.trans found
    exact (id_of_compile origin.compiled).trans same.id

namespace RulePlan

variable {p : RulePlan} {severity : Severity} {ids : List String} {todo : List Rule}

/-- The rules of a severity, in the order of evaluation. -/
def group (p : RulePlan) : Severity → List CompiledRule
  | .critical => p.critical
  | .warning => p.warning
  | .info => p.info

theorem rules_eq_groups (p : RulePlan) : p.rules = p.group .critical ++ p.group .warning ++ p.group .info := rfl

theorem mem_rules_iff_group : c ∈ p.rules ↔ ∃ severity, c ∈ p.group severity := by
  simp only [rules_eq_groups, List.mem_append]
  constructor
  · rintro ((critical | warning) | info)
    · exact ⟨.critical, critical⟩
    · exact ⟨.warning, warning⟩
    · exact ⟨.info, info⟩
  · rintro ⟨severity, mem⟩
    cases severity with
    | critical => exact .inl (.inl mem)
    | warning => exact .inl (.inr mem)
    | info => exact .inr mem

/-! ## Taking a rule in -/

theorem group_add (p : RulePlan) (c : CompiledRule) (severity : Severity) :
    (p.add c).group severity = p.group severity ++ if c.severity = severity then [c] else [] := by
  cases own : c.severity <;> cases severity <;> simp [add, own, group]

theorem rules_add_perm (p : RulePlan) (c : CompiledRule) : (p.add c).rules.Perm (c :: p.rules) := by
  unfold add
  split
  · simp only [rules, List.append_assoc, List.singleton_append]
    exact List.perm_middle
  · simp only [rules, List.append_assoc, List.singleton_append]
    rw [← List.append_assoc, ← List.append_assoc]
    exact List.perm_middle
  · simp only [rules, ← List.append_assoc]
    exact List.perm_append_singleton c _

/-- A rule that is taken in stands at the end of its group, or the groups stay as they are. -/
theorem take_group (schema : Schema) (p : RulePlan) (cache : RuleCache) (r : Rule) :
    (∃ c, (cache.lookup r schema).1 = .ok (.compiled c) ∧ (take schema (p, cache) r).1 = p.add c) ∨
      (∀ severity, (take schema (p, cache) r).1.group severity = p.group severity) := by
  unfold take
  simp only
  split
  · exact .inr fun severity => by cases severity <;> rfl
  · split
    · next c _ found => exact .inl ⟨c, by rw [found], rfl⟩
    · exact .inr fun severity => by cases severity <;> rfl
    · exact .inr fun severity => by cases severity <;> rfl

theorem reachable_take (h : cache.Reachable) (schema : Schema) (p : RulePlan) (r : Rule) :
    (take schema (p, cache) r).2.Reachable := by
  have later : (cache.lookup r schema).2.Reachable := h.lookup
  unfold take
  simp only
  split
  · exact h
  · split <;> (next found => rwa [found] at later)

/-! ## Severities -/

/-- Each group holds rules of its severity. -/
def BySeverity (p : RulePlan) : Prop := ∀ severity, ∀ c ∈ p.group severity, c.severity = severity

theorem BySeverity.take (h : p.BySeverity) (schema : Schema) (cache : RuleCache) (r : Rule) :
    (RulePlan.take schema (p, cache) r).1.BySeverity := by
  intro severity c mem
  rcases take_group schema p cache r with ⟨k, -, taken⟩ | same
  · rw [taken, group_add, List.mem_append] at mem
    rcases mem with mem | mem
    · exact h severity c mem
    · split at mem
      · next own => rw [List.mem_singleton.mp mem, own]
      · cases mem
  · exact h severity c (same severity ▸ mem)

theorem BySeverity.foldl_take (h : p.BySeverity) (schema : Schema) (cache : RuleCache) (todo : List Rule) :
    (todo.foldl (RulePlan.take schema) (p, cache)).1.BySeverity := by
  induction todo generalizing p cache with
  | nil => exact h
  | cons r rest ih => exact ih (h.take schema cache r) _

/-- **Every plan that is built is grouped by severity**, whatever the cache holds. -/
theorem build_bySeverity (rules : List Rule) (schema : Schema) (cache : RuleCache) :
    (build rules schema cache).1.BySeverity := by
  refine BySeverity.foldl_take ?_ schema cache _
  intro severity c mem
  cases severity <;> cases mem

/-! ## Ids -/

/-- In each group the rules have some of the ids, in their order, and no id stands twice in the plan. -/
structure HasIds (p : RulePlan) (ids : List String) : Prop where
  inOrder : ∀ severity, ((p.group severity).map (·.id)).Sublist ids
  distinct : (p.rules.map (·.id)).Nodup

theorem HasIds.mem (h : p.HasIds ids) (mem : c ∈ p.rules) : c.id ∈ ids := by
  obtain ⟨severity, mem⟩ := mem_rules_iff_group.mp mem
  exact (h.inOrder severity).subset (List.mem_map_of_mem mem)

theorem HasIds.take (h : p.HasIds ids) (reachable : cache.Reachable) (schema : Schema) (other : r.id ∉ ids) :
    (RulePlan.take schema (p, cache) r).1.HasIds (ids ++ [r.id]) := by
  rcases take_group schema p cache r with ⟨c, found, taken⟩ | same
  · have id : c.id = r.id := reachable.id_of_compiled found
    rw [taken]
    refine ⟨fun severity => ?_, ?_⟩
    · rw [group_add, List.map_append]
      refine (h.inOrder severity).append ?_
      split
      · exact id ▸ List.Sublist.refl [c.id]
      · exact List.nil_sublist _
    · refine ((p.rules_add_perm c).map (·.id)).nodup_iff.mpr (List.nodup_cons.mpr ⟨fun mem => ?_, h.distinct⟩)
      obtain ⟨d, held, (same : d.id = c.id)⟩ := List.mem_map.mp mem
      rw [← id, ← same] at other
      exact other (h.mem held)
  · refine ⟨fun severity => ?_, ?_⟩
    · rw [same]
      exact (h.inOrder severity).trans (List.sublist_append_left ids _)
    · rw [rules_eq_groups, same, same, same, ← rules_eq_groups]
      exact h.distinct

theorem HasIds.foldl_take (h : p.HasIds ids) (reachable : cache.Reachable) (schema : Schema)
    (distinct : (ids ++ todo.map Rule.id).Nodup) :
    (todo.foldl (RulePlan.take schema) (p, cache)).1.HasIds (ids ++ todo.map Rule.id) := by
  induction todo generalizing p cache ids with
  | nil => simpa using h
  | cons r rest ih =>
    have other : r.id ∉ ids := fun mem => (List.nodup_append.mp distinct).2.2 _ mem _ List.mem_cons_self rfl
    have later := ih (h.take reachable schema other) (reachable_take reachable schema p r) (by simpa using distinct)
    simpa using later

/-- The rules of a plan in the order of evaluation: by severity, and within a severity by id. -/
structure Arranged (p : RulePlan) : Prop where
  bySeverity : p.BySeverity
  ascending : ∀ severity, (p.group severity).Pairwise fun a b => a.id < b.id
  distinct : (p.rules.map (·.id)).Nodup

/-- **The rules of a plan are arranged**, whatever the cache holds. -/
theorem build_arranged (reachable : cache.Reachable) {rules : List Rule} (distinct : (rules.map Rule.id).Nodup)
    (schema : Schema) : (build rules schema cache).1.Arranged := by
  let ordered := rules.mergeSort fun a b => a.id ≤ b.id
  have ids : (ordered.map Rule.id).Nodup :=
    ((List.mergeSort_perm rules fun a b => a.id ≤ b.id).map Rule.id).nodup_iff.mpr distinct
  have ascending : (ordered.map Rule.id).Pairwise (· < ·) := by
    refine List.pairwise_map.mpr (((ascending_mergeSort Rule.id rules).and (List.pairwise_map.mp ids)).imp ?_)
    intro a b ⟨le, ne⟩
    exact Std.lt_of_le_of_ne le ne
  have nothing : (start schema.recordType (RecordGate.fingerprint rules)).HasIds [] := by
    refine ⟨fun severity => ?_, List.nodup_nil⟩
    cases severity <;> exact List.Sublist.refl []
  have built : (build rules schema cache).1.HasIds (ordered.map Rule.id) := nothing.foldl_take reachable schema ids
  refine ⟨build_bySeverity rules schema cache, fun severity => ?_, built.distinct⟩
  exact List.pairwise_map.mp (ascending.sublist (built.inOrder severity))

end RulePlan

end RecordGate
