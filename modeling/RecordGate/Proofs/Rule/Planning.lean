import RecordGate.Proofs.Rule.Fingerprint
import RecordGate.Proofs.Rule.Plans
import RecordGate.Proofs.Sorting

/-!
# What a plan is built of

A plan is built rule after rule, and each active rule goes through the cache, which may evict one rule for
another on the way. Where no two rules have one id and the cache is empty at first, no rule ever meets an entry
of its own id (`RuleCache.Lacks`), so each is compiled as if there were no cache. The plan is then told by the
rules alone (`RulePlan.ofOrdered`), whatever their order and however small the cache is
(`RulePlan.build_uncached`).
-/

namespace RecordGate

/-! ## The plan that rules make -/

/-- The compiled form of a rule, if it stands in the group of this severity. -/
def Rule.compiledFor? (schema : Schema) (severity : Severity) (r : Rule) : Option CompiledRule :=
  if r.recordType = schema.recordType ∧ r.active = true ∧ r.severity = severity then (r.compile schema).toOption
  else none

/-- What is told of a rule that is left out. Of an inactive rule nothing is told, unless its record type is another. -/
def Rule.warning? (schema : Schema) (r : Rule) : Option RuleWarning :=
  if r.recordType ≠ schema.recordType then
    some ⟨r.id, "record_type_mismatch", RulePlan.mismatchMessage r schema.recordType⟩
  else if r.active then
    match r.compile schema with
    | .ok _ => none
    | .error e => some ⟨r.id, "compile_error", e.message⟩
  else none

/-- The plan of rules in ascending order. -/
def RulePlan.ofOrdered (schema : Schema) (fingerprint : String) (ordered : List Rule) : RulePlan where
  recordType := schema.recordType
  critical := ordered.filterMap (·.compiledFor? schema .critical)
  warning := ordered.filterMap (·.compiledFor? schema .warning)
  info := ordered.filterMap (·.compiledFor? schema .info)
  warnings := ordered.filterMap (·.warning? schema)
  inactive := ordered.countP fun r => r.recordType = schema.recordType ∧ r.active = false
  fingerprint := fingerprint

/-! ## Caches without an entry -/

/-- The cache holds no entry of these ids. -/
def RuleCache.Lacks (cache : RuleCache) (ids : List String) : Prop :=
  ∃ l, cache.Refines l ∧ ∀ c ∈ l.rules, c.id ∉ ids

namespace RuleCache.Lacks

variable {cache : RuleCache} {ids : List String} {id : String} {r : Rule}

theorem of_empty (reachable : cache.Reachable) (empty : cache.size = 0) (ids : List String) : cache.Lacks ids := by
  obtain ⟨config, assign, ops, rfl⟩ := reachable
  have refines := ((Refines.new config assign).run ops).2
  refine ⟨_, refines, ?_⟩
  intro c hc
  have none := refines.size_eq.symm.trans empty
  rw [List.length_eq_zero_iff.mp none] at hc
  cases hc

theorem tail (h : cache.Lacks (id :: ids)) : cache.Lacks ids := by
  obtain ⟨l, refines, lacks⟩ := h
  refine ⟨l, refines, ?_⟩
  intro c hc held
  exact lacks c hc (List.mem_cons_of_mem id held)

/-- A rule whose id the cache lacks is answered as if there were no cache. -/
theorem lookup_answer (h : cache.Lacks (r.id :: ids)) (schema : Schema) :
    (cache.lookup r schema).1 = r.uncached schema := by
  obtain ⟨l, refines, lacks⟩ := h
  rw [(refines.lookup r schema).1]
  rcases l.lookup_answer r schema with fresh | ⟨c, hc, same, -⟩
  · exact fresh
  · exact absurd (same ▸ List.mem_cons_self) (lacks c hc)

/-- A lookup adds no entry but that of its own rule. -/
theorem lookup (h : cache.Lacks (r.id :: ids)) (other : r.id ∉ ids) (schema : Schema) :
    (cache.lookup r schema).2.Lacks ids := by
  obtain ⟨l, refines, lacks⟩ := h
  refine ⟨_, (refines.lookup r schema).2, ?_⟩
  intro c hc held
  rcases Lru.mem_lookup hc with ⟨before, -⟩ | ⟨-, compiled⟩
  · exact lacks c before (List.mem_cons_of_mem r.id held)
  · obtain ⟨e, t, -, -, -, rfl⟩ := Rule.compile_ok compiled
    exact other held

end RuleCache.Lacks

/-! ## Building -/

namespace RulePlan

variable {cache : RuleCache} {schema : Schema} {fingerprint : String} {r : Rule} {done todo : List Rule}

/-- Taking in a rule whose id the cache lacks adds what the rule alone makes of the plan. -/
theorem take_ofOrdered {ids : List String} (lacks : cache.Lacks (r.id :: ids)) (schema : Schema)
    (fingerprint : String) (done : List Rule) :
    (take schema (ofOrdered schema fingerprint done, cache) r).1 = ofOrdered schema fingerprint (done ++ [r]) := by
  have answer := lacks.lookup_answer schema
  unfold RulePlan.take
  simp only
  by_cases mismatch : r.recordType ≠ schema.recordType
  · rw [if_pos mismatch]
    simp [ofOrdered, warn, Rule.compiledFor?, Rule.warning?, mismatch]
  · rw [if_neg mismatch]
    have same : r.recordType = schema.recordType := Decidable.not_not.mp mismatch
    cases active : r.active with
    | false =>
      have inactive : (cache.lookup r schema).1 = .ok .inactive := by simp [answer, Rule.uncached, active]
      split
      · next c cache' found => simp [found] at inactive
      · simp [ofOrdered, Rule.compiledFor?, Rule.warning?, same, active]
      · next e cache' found => simp [found] at inactive
    | true =>
      cases compiled : r.compile schema with
      | error e =>
        have failed : (cache.lookup r schema).1 = .error e := by
          simp [answer, Rule.uncached, active, compiled, Except.map]
        split
        · next c cache' found => simp [found] at failed
        · next cache' found => simp [found] at failed
        · next e' cache' found =>
          obtain rfl : e' = e := by simpa [found] using failed
          simp [ofOrdered, warn, Rule.compiledFor?, Rule.warning?, same, active, compiled, Except.toOption]
      | ok c =>
        have held : (cache.lookup r schema).1 = .ok (.compiled c) := by
          simp [answer, Rule.uncached, active, compiled, Except.map]
        have severity : c.severity = r.severity := by
          obtain ⟨e, t, -, -, -, rfl⟩ := Rule.compile_ok compiled
          rfl
        split
        · next c' cache' found =>
          obtain rfl : c' = c := by simpa [found] using held
          cases group : r.severity <;>
            simp [ofOrdered, add, severity, group, Rule.compiledFor?, Rule.warning?, same, active, compiled,
              Except.toOption]
        · next cache' found => simp [found] at held
        · next e cache' found => simp [found] at held

theorem take_lacks {ids : List String} (lacks : cache.Lacks (r.id :: ids)) (other : r.id ∉ ids) (schema : Schema)
    (p : RulePlan) : (take schema (p, cache) r).2.Lacks ids := by
  have later := lacks.lookup other schema
  unfold RulePlan.take
  simp only
  split
  · exact lacks.tail
  · split
    · next found => rwa [found] at later
    · next found => rwa [found] at later
    · next found => rwa [found] at later

/-- Taking in rule after rule makes the plan of all of them. -/
theorem foldl_take_ofOrdered (lacks : cache.Lacks (todo.map Rule.id)) (distinct : (todo.map Rule.id).Nodup)
    (schema : Schema) (fingerprint : String) (done : List Rule) :
    (todo.foldl (take schema) (ofOrdered schema fingerprint done, cache)).1 =
      ofOrdered schema fingerprint (done ++ todo) := by
  induction todo generalizing done cache with
  | nil => simp
  | cons r rest ih =>
    obtain ⟨other, distinct⟩ := List.nodup_cons.mp distinct
    have taken := take_ofOrdered lacks schema fingerprint done
    have left := take_lacks lacks other schema (ofOrdered schema fingerprint done)
    rw [List.foldl_cons, ← Prod.eta (take schema _ r), taken, ih left distinct, List.append_assoc]
    rfl

/-! ## The order of the rules -/

/-- The fingerprint is the same whatever the order of the rules. -/
theorem fingerprint_perm {rules others : List Rule} (perm : others.Perm rules) :
    RecordGate.fingerprint others = RecordGate.fingerprint rules :=
  congrArg Sha256.hex (fingerprintInput_perm (perm.map Rule.stamp))

theorem build_eq_ofOrdered (reachable : cache.Reachable) (empty : cache.size = 0) {rules : List Rule}
    (distinct : (rules.map Rule.id).Nodup) (schema : Schema) :
    (build rules schema cache).1 =
      ofOrdered schema (RecordGate.fingerprint rules) (rules.mergeSort fun a b => a.id ≤ b.id) := by
  have ids : ((rules.mergeSort fun a b => a.id ≤ b.id).map Rule.id).Nodup :=
    ((List.mergeSort_perm rules fun a b => a.id ≤ b.id).map Rule.id).nodup_iff.mpr distinct
  exact foldl_take_ofOrdered (.of_empty reachable empty _) ids schema _ []

/-- Rules in ascending order of their ids stay as they are. -/
theorem build_of_ascending (reachable : cache.Reachable) (empty : cache.size = 0) {rules : List Rule}
    (ascending : rules.Pairwise fun a b => a.id < b.id) (schema : Schema) :
    (build rules schema cache).1 = ofOrdered schema (RecordGate.fingerprint rules) rules := by
  have distinct : (rules.map Rule.id).Nodup := List.pairwise_map.mpr (ascending.imp Std.ne_of_lt)
  have sorted := ascending.imp fun lt => decide_eq_true (Std.le_of_lt lt)
  rw [build_eq_ofOrdered reachable empty distinct schema, List.mergeSort_of_pairwise sorted]

/--
**What a plan holds is told by its rules alone.** Through an empty cache of any size, each list of the plan is
made rule by rule in ascending order of the ids: the rules that compile by severity, what is told of the others,
and how many are inactive. The same rules in another order, through another empty cache, make the same plan.
-/
theorem build_uncached (reachable : cache.Reachable) (empty : cache.size = 0) {rules : List Rule}
    (distinct : (rules.map Rule.id).Nodup) (schema : Schema) :
    ∃ ordered : List Rule, ordered.Perm rules ∧ ordered.Pairwise (fun a b => a.id < b.id) ∧
      (build rules schema cache).1 = ofOrdered schema (RecordGate.fingerprint rules) ordered ∧
      ∀ others : List Rule, ∀ cache' : RuleCache, others.Perm rules → cache'.Reachable → cache'.size = 0 →
        (build others schema cache').1 = (build rules schema cache).1 := by
  have sorted := List.mergeSort_perm rules fun a b => a.id ≤ b.id
  have built := build_eq_ofOrdered reachable empty distinct schema
  refine ⟨rules.mergeSort fun a b => a.id ≤ b.id, sorted, ?_, built, ?_⟩
  · have apart := List.pairwise_map.mp ((sorted.map Rule.id).nodup_iff.mpr distinct)
    refine ((ascending_mergeSort Rule.id rules).and apart).imp ?_
    intro a b ⟨le, ne⟩
    exact Std.lt_of_le_of_ne le ne
  · intro others cache' perm reachable' empty'
    have distinct' : (others.map Rule.id).Nodup := (perm.map Rule.id).nodup_iff.mpr distinct
    have order : (others.mergeSort fun a b => a.id ≤ b.id) = rules.mergeSort fun a b => a.id ≤ b.id :=
      mergeSort_eq_of_perm perm (List.inj_on_of_nodup_map distinct')
    rw [build_eq_ofOrdered reachable' empty' distinct' schema, built, order, fingerprint_perm perm]

/-- Five rules pass through a cache with room for one. -/
theorem build_uncached_room_for_one :
    let schema : Schema := ⟨.sales, [⟨"amount", .decimal, true, []⟩], .empty⟩
    let rule (id expression : String) (severity : Severity) (active : Bool) (recordType : RecordType) : Rule :=
      ⟨id, recordType, .range, expression, severity, "", active, 1, "", none, none⟩
    let rules := [rule "R5" "amount > 5" .critical true .sales, rule "R4" "amount >" .critical true .sales,
      rule "R3" "amount > 3" .info false .sales, rule "R2" "amount > 2" .critical true .sales,
      rule "R1" "amount > 1" .warning true .expense]
    let plan := (build rules schema (.new ⟨1, 1⟩ RuleCache.spread)).1
    (rules.map Rule.id).Nodup ∧ plan.critical.map (·.id) = ["R2", "R5"] ∧ plan.warning.map (·.id) = [] ∧
      plan.warnings.map (fun w => (w.ruleId, w.code)) = [("R1", "record_type_mismatch"), ("R4", "compile_error")] ∧
      plan.inactive = 1 ∧ (build rules.reverse schema (.new .standard RuleCache.spread)).1 = plan := by
  intro schema rule rules plan
  have distinct : (rules.map Rule.id).Nodup := by decide
  obtain ⟨ordered, perm, ascending, built, same⟩ :=
    build_uncached (RuleCache.reachable_new ⟨1, 1⟩ RuleCache.spread) rfl distinct schema
  have order : ordered = rules.reverse := by
    refine List.Perm.eq_of_pairwise ?_ ascending (by decide +kernel) (perm.trans (List.reverse_perm rules).symm)
    intro a b _ _ lt gt
    exact absurd (Std.lt_trans lt gt) Std.lt_irrefl
  have made : plan = ofOrdered schema (RecordGate.fingerprint rules) rules.reverse := order ▸ built
  refine ⟨distinct, ?_, ?_, ?_, ?_, ?_⟩
  · rw [made]
    decide +kernel
  · rw [made]
    decide +kernel
  · rw [made]
    decide +kernel
  · rw [made]
    decide +kernel
  · exact same rules.reverse _ (List.reverse_perm rules) (RuleCache.reachable_new .standard RuleCache.spread) rfl

end RulePlan

end RecordGate
