import RecordGate.Proofs.Batch.Judging
import RecordGate.Proofs.Rule.Transparency

/-!
# The rules of a plan

A plan is built through a cache, and every rule in it was compiled at some time, if not from the rule it
is built for (`RulePlan.build_compiled`). So its rules know whether they are stateful (`RulePlan.build_candid`).
-/

namespace RecordGate

/-- The cache has come out of uses of an empty one. -/
def RuleCache.Reachable (cache : RuleCache) : Prop :=
  ∃ config assign ops, cache = (runOps RuleCache.step (.new config assign) ops).2

theorem runOps_concat {σ : Type} (step : σ → CacheOp → CacheAnswer × σ) (s : σ) (ops : List CacheOp) (op : CacheOp) :
    (runOps step s (ops ++ [op])).2 = (step (runOps step s ops).2 op).2 := by
  induction ops generalizing s with
  | nil => rfl
  | cons first rest ih => exact ih (step s first).2

namespace RuleCache

theorem reachable_new (config : CacheConfig) (assign : String → Nat) : (new config assign).Reachable :=
  ⟨config, assign, [], rfl⟩

variable {cache : RuleCache} {r : Rule} {schema : Schema} {c : CompiledRule}

theorem Reachable.lookup (h : cache.Reachable) : (cache.lookup r schema).2.Reachable := by
  obtain ⟨config, assign, ops, rfl⟩ := h
  refine ⟨config, assign, ops ++ [.lookup r schema], ?_⟩
  rw [runOps_concat]
  rfl

/-- What a lookup finds was compiled from some rule. -/
theorem Reachable.compiled (h : cache.Reachable) (found : (cache.lookup r schema).1 = .ok (.compiled c)) :
    ∃ r' : Rule, ∃ schema', r'.compile schema' = .ok c := by
  obtain ⟨config, assign, ops, rfl⟩ := h
  rcases lookup_origin config assign ops r schema with fresh | ⟨r', schema', k, origin, -, -, cached⟩
  · exact ⟨r, schema, Rule.uncached_eq_compiled (fresh.symm.trans found)⟩
  · cases cached.symm.trans found
    exact ⟨r', schema', origin.compiled⟩

end RuleCache

namespace RulePlan

variable {p : RulePlan} {c k : CompiledRule}

theorem mem_rules_add : c ∈ (p.add k).rules ↔ c ∈ p.rules ∨ c = k := by
  unfold add
  split <;> simp only [rules, List.mem_append, List.mem_singleton] <;> tauto

/-- Every rule of the plan was compiled from some rule. -/
def Compiled (p : RulePlan) : Prop := ∀ c ∈ p.rules, ∃ r : Rule, ∃ schema, r.compile schema = .ok c

theorem Compiled.candid (h : p.Compiled) : p.Candid := by
  intro c hc
  obtain ⟨r, schema, compiled⟩ := h c hc
  exact Rule.stateful_iff compiled

theorem compiled_start (t : RecordType) (fingerprint : String) : (start t fingerprint).Compiled := by
  intro c hc
  simp [start, rules] at hc

/-- Taking in a rule keeps what is known of the plan and of the cache. -/
theorem Compiled.take {cache : RuleCache} (h : p.Compiled) (reachable : cache.Reachable) (schema : Schema) (r : Rule) :
    (take schema (p, cache) r).1.Compiled ∧ (take schema (p, cache) r).2.Reachable := by
  have later : (cache.lookup r schema).2.Reachable := reachable.lookup
  unfold RulePlan.take
  simp only
  split
  · exact ⟨h, reachable⟩
  · split
    · next k cache' found =>
      rw [found] at later
      refine ⟨fun c hc => ?_, later⟩
      rcases mem_rules_add.mp hc with hc | rfl
      · exact h c hc
      · exact reachable.compiled (by rw [found])
    · next cache' found =>
      rw [found] at later
      exact ⟨h, later⟩
    · next e cache' found =>
      rw [found] at later
      exact ⟨h, later⟩

theorem Compiled.foldl_take {cache : RuleCache} (h : p.Compiled) (reachable : cache.Reachable) (schema : Schema)
    (rules : List Rule) :
    (rules.foldl (RulePlan.take schema) (p, cache)).1.Compiled ∧
      (rules.foldl (RulePlan.take schema) (p, cache)).2.Reachable := by
  induction rules generalizing p cache with
  | nil => exact ⟨h, reachable⟩
  | cons r rest ih =>
    obtain ⟨compiled, later⟩ := h.take reachable schema r
    exact ih compiled later

/-- **Every rule of a plan was compiled**, and the cache may be used again. -/
theorem build_compiled {cache : RuleCache} (reachable : cache.Reachable) (rules : List Rule) (schema : Schema) :
    (build rules schema cache).1.Compiled ∧ (build rules schema cache).2.Reachable :=
  (compiled_start _ _).foldl_take reachable schema _

theorem build_candid {cache : RuleCache} (reachable : cache.Reachable) (rules : List Rule) (schema : Schema) :
    (build rules schema cache).1.Candid := (build_compiled reachable rules schema).1.candid

end RulePlan

end RecordGate
