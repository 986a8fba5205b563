import RecordGate.Proofs.Rule.CacheRefinement

/-!
# What a cache may answer instead of compiling

A cache tells rules apart by id, revision and expression, and it does not look at the schema. So what it
finds was compiled by an earlier lookup of the same revision, perhaps of a rule with another severity or
under another schema. Where a revision stands for one rule and one schema, it is as if there were no cache.

`CompiledFrom ops r schema c` says where a rule in the cache comes from; `Lru.origin_of_mem_run` finds such
an origin for each rule that is there after a run.
-/

namespace RecordGate

/-- A cache does not tell the two rules apart. -/
structure Rule.SameRevision (r r' : Rule) : Prop where
  id : r.id = r'.id
  revision : r.revision = r'.revision
  expression : r.expression = r'.expression

/-- The two rules agree in what else goes into a compiled rule. -/
structure Rule.SameTerms (r r' : Rule) : Prop where
  recordType : r.recordType = r'.recordType
  ruleType : r.ruleType = r'.ruleType
  severity : r.severity = r'.severity
  template : r.template = r'.template

/-- What a lookup answers where nothing is cached. -/
def Rule.uncached (r : Rule) (schema : Schema) : Except CompileError Lookup :=
  if r.active then (r.compile schema).map .compiled else .ok .inactive

/-- The operation leaves the compiled rule in a cache, unless it makes room for another. -/
def CacheOp.Keeps (c : CompiledRule) : CacheOp → Prop
  | .lookup r _ => r.id = c.id → r.active = true ∧ c.isOf r = true
  | .invalidate key => c.id ≠ key
  | .invalidateAll => False
  | .refresh store => Lru.isCurrent store c = true

/-- An active lookup among the operations compiled the rule, and every later one keeps it. -/
def CompiledFrom (ops : List CacheOp) (r : Rule) (schema : Schema) (c : CompiledRule) : Prop :=
  ∃ before after, ops = before ++ .lookup r schema :: after ∧ r.active = true ∧ r.compile schema = .ok c ∧
    ∀ op ∈ after, op.Keeps c

variable {r r' : Rule} {schema schema' : Schema} {c c' : CompiledRule} {l : Lru} {id : String}

/-! ## Compiling -/

theorem Rule.compile_congr (same : r.SameRevision r') (terms : r.SameTerms r') (schema : Schema) :
    r.compile schema = r'.compile schema := by
  unfold Rule.compile
  rw [same.id, same.revision, same.expression, terms.recordType, terms.ruleType, terms.severity, terms.template]

/-- A rule that is compiled from one rule and taken for another is of a revision of both. -/
theorem Rule.sameRevision_of_isOf (compiled : r.compile schema = .ok c) (id : c.id = r'.id) (isOf : c.isOf r' = true) :
    r.SameRevision r' := by
  obtain ⟨e, t, -, -, -, rfl⟩ := Rule.compile_ok compiled
  have parts : r.revision = r'.revision ∧ r.expression = r'.expression := by
    simpa [CompiledRule.isOf] using isOf
  exact ⟨id, parts.1, parts.2⟩

/-- The predicate depends on nothing but the expression and the schema. -/
theorem Rule.predicate_of_compile (same : r.expression = r'.expression) (compiled : r.compile schema = .ok c)
    (compiled' : r'.compile schema = .ok c') : c.predicate = c'.predicate ∧ c.stateful = c'.stateful := by
  obtain ⟨e, t, parsed, typed, -, rfl⟩ := Rule.compile_ok compiled
  obtain ⟨e', t', parsed', typed', -, rfl⟩ := Rule.compile_ok compiled'
  rw [same, parsed'] at parsed
  cases parsed
  rw [typed] at typed'
  cases typed'
  exact ⟨rfl, rfl⟩

theorem Rule.uncached_eq_inactive_iff : r.uncached schema = .ok .inactive ↔ r.active = false := by
  unfold Rule.uncached
  cases r.active with
  | false => simp
  | true => cases r.compile schema <;> simp [Except.map]

theorem Rule.uncached_eq_error {e : CompileError} (h : r.uncached schema = .error e) :
    r.compile schema = .error e := by
  unfold Rule.uncached at h
  split at h
  · exact map_eq_error.mp h
  · cases h

theorem Rule.uncached_eq_compiled (h : r.uncached schema = .ok (.compiled c)) : r.compile schema = .ok c := by
  unfold Rule.uncached at h
  split at h
  · obtain ⟨c', compiled, same⟩ := map_eq_ok.mp h
    cases same
    exact compiled
  · cases h

/-! ## Where the rules of a cache come from -/

namespace Lru

theorem mem_invalidate : c ∈ (l.invalidate id).2.rules ↔ c ∈ l.rules ∧ c.id ≠ id := by
  unfold invalidate
  split
  · simp [others]
  · next absent =>
    refine ⟨fun mem => ⟨mem, ?_⟩, And.left⟩
    simpa using List.find?_eq_none.mp absent c mem

theorem mem_makeRoom (mem : c ∈ l.makeRoom.rules) : c ∈ l.rules := by
  unfold makeRoom at mem
  split at mem
  · exact List.mem_of_mem_tail mem
  · exact mem

theorem mem_compileMissing (mem : c ∈ (l.compileMissing r schema).2.rules) :
    c ∈ l.rules ∨ r.compile schema = .ok c := by
  unfold compileMissing at mem
  cases compiled : r.compile schema with
  | error e =>
    simp only [compiled] at mem
    exact .inl mem
  | ok k =>
    simp only [compiled, append, List.mem_append, List.mem_singleton] at mem
    rcases mem with mem | rfl
    · exact .inl (mem_makeRoom (l := { l with misses := l.misses + 1 }) mem)
    · exact .inr rfl

/-- A rule that is there after a lookup was kept by it or is the one it compiled. -/
theorem mem_lookup (mem : c ∈ (l.lookup r schema).2.rules) :
    (c ∈ l.rules ∧ CacheOp.Keeps c (.lookup r schema)) ∨ (r.active = true ∧ r.compile schema = .ok c) := by
  -- What has another id is kept whatever becomes of the rule that was looked for.
  have other (mem : c ∈ l.rules) (ne : c.id ≠ r.id) : c ∈ l.rules ∧ CacheOp.Keeps c (.lookup r schema) :=
    ⟨mem, fun same => absurd same.symm ne⟩
  unfold lookup at mem
  split at mem
  · obtain ⟨mem, ne⟩ := mem_invalidate.mp mem
    exact .inl (other mem ne)
  · next active =>
    have active : r.active = true := by simpa using active
    split at mem
    · next k found =>
      have mem_k : k ∈ l.rules := List.mem_of_find?_eq_some found
      split at mem
      · next isOf =>
        simp only [others, List.mem_append, List.mem_filter, List.mem_singleton, bne_iff_ne] at mem
        rcases mem with ⟨mem, ne⟩ | rfl
        · exact .inl (other mem ne)
        · exact .inl ⟨mem_k, fun _ => ⟨active, isOf⟩⟩
      · rcases mem_compileMissing mem with mem | compiled
        · obtain ⟨mem, ne⟩ := mem_invalidate.mp mem
          exact .inl (other mem ne)
        · exact .inr ⟨active, compiled⟩
    · next absent =>
      rcases mem_compileMissing mem with mem | compiled
      · have ne : c.id ≠ r.id := by simpa using List.find?_eq_none.mp absent c mem
        exact .inl (other mem ne)
      · exact .inr ⟨active, compiled⟩

/-- A rule that is there after an operation was kept by it or compiled by it. -/
theorem mem_step {op : CacheOp} (mem : c ∈ (l.step op).2.rules) :
    (c ∈ l.rules ∧ op.Keeps c) ∨ ∃ r schema, op = .lookup r schema ∧ r.active = true ∧ r.compile schema = .ok c := by
  cases op with
  | lookup r schema => exact (mem_lookup mem).imp_right fun compiled => ⟨r, schema, rfl, compiled⟩
  | invalidate key => exact .inl (mem_invalidate.mp mem)
  | invalidateAll => exact absurd mem List.not_mem_nil
  | refresh store => exact .inl (List.mem_filter.mp mem)

/-- **A rule that is there after a run was kept all along, or an operation compiled it and it was kept since.** -/
theorem origin_of_mem_run {ops : List CacheOp} (mem : c ∈ (runOps step l ops).2.rules) :
    (c ∈ l.rules ∧ ∀ op ∈ ops, op.Keeps c) ∨ ∃ r schema, CompiledFrom ops r schema c := by
  induction ops generalizing l with
  | nil => exact .inl ⟨mem, List.forall_mem_nil _⟩
  | cons op ops ih =>
    rcases ih mem with ⟨mem, kept⟩ | ⟨r, schema, before, after, rfl, origin⟩
    · rcases mem_step mem with ⟨mem, keeps⟩ | ⟨r, schema, rfl, active, compiled⟩
      · exact .inl ⟨mem, List.forall_mem_cons.mpr ⟨keeps, kept⟩⟩
      · exact .inr ⟨r, schema, [], ops, rfl, active, compiled, kept⟩
    · exact .inr ⟨r, schema, op :: before, after, rfl, origin⟩

/-- A lookup answers as without a cache, or with a rule that is there. -/
theorem lookup_answer (l : Lru) (r : Rule) (schema : Schema) :
    (l.lookup r schema).1 = r.uncached schema ∨
      ∃ c ∈ l.rules, c.id = r.id ∧ c.isOf r = true ∧ r.active = true ∧ (l.lookup r schema).1 = .ok (.compiled c) := by
  have missing (l : Lru) : (l.compileMissing r schema).1 = (r.compile schema).map .compiled := by
    unfold compileMissing
    cases r.compile schema <;> rfl
  unfold lookup Rule.uncached
  cases active : r.active with
  | false => exact .inl rfl
  | true =>
    cases found : l.find? r.id with
    | none => exact .inl (missing l)
    | some c =>
      have id : c.id = r.id := by
        simpa using List.find?_some (p := fun k : CompiledRule => k.id == r.id) found
      cases isOf : c.isOf r with
      | false =>
        left
        simpa [isOf] using missing (l.invalidate r.id).2
      | true =>
        right
        exact ⟨c, List.mem_of_find?_eq_some found, id, isOf, rfl, by simp [isOf]⟩

end Lru

/-- The lookup that compiled a rule is among the operations. -/
theorem CompiledFrom.mem {ops : List CacheOp} (h : CompiledFrom ops r schema c) :
    .lookup r schema ∈ ops := by
  obtain ⟨before, after, rfl, -⟩ := h
  simp

theorem CompiledFrom.active {ops : List CacheOp} (h : CompiledFrom ops r schema c) : r.active = true := by
  obtain ⟨-, -, -, active, -⟩ := h
  exact active

theorem CompiledFrom.compiled {ops : List CacheOp} (h : CompiledFrom ops r schema c) : r.compile schema = .ok c := by
  obtain ⟨-, -, -, -, compiled, -⟩ := h
  exact compiled

/-- After a run from an empty cache a lookup answers as without a cache, or with an earlier rule of the revision. -/
theorem RuleCache.lookup_origin (config : CacheConfig) (assign : String → Nat) (ops : List CacheOp) (r : Rule)
    (schema : Schema) :
    let answer := ((runOps RuleCache.step (.new config assign) ops).2.lookup r schema).1
    answer = r.uncached schema ∨
      ∃ r' schema' c, CompiledFrom ops r' schema' c ∧ r'.SameRevision r ∧ r.active = true ∧
        answer = .ok (.compiled c) := by
  intro answer
  have refines := ((Refines.new config assign).run ops).2
  have same : answer = ((runOps Lru.step (.new config) ops).2.lookup r schema).1 := (refines.lookup r schema).1
  rw [same]
  rcases Lru.lookup_answer (runOps Lru.step (.new config) ops).2 r schema with
    fresh | ⟨c, mem, id, isOf, active, cached⟩
  · exact .inl fresh
  · rcases Lru.origin_of_mem_run mem with ⟨mem, -⟩ | ⟨r', schema', origin⟩
    · exact absurd mem List.not_mem_nil
    · have compiled : r'.compile schema' = .ok c := origin.compiled
      exact .inr ⟨r', schema', c, origin, Rule.sameRevision_of_isOf compiled id isOf, active, cached⟩

/--
**A cache answers as if there were none, up to what a revision leaves open.** The answer is inactive exactly
for an inactive rule, and an error is that of compiling. A compiled rule is the rule compiled anew, or it was
compiled by an earlier lookup of the revision and kept since; under one schema it has the same predicate. If
the earlier lookups of the revision were of the same terms and the same schema, nothing differs at all.
-/
theorem RuleCache.lookup_transparent (config : CacheConfig) (assign : String → Nat) (ops : List CacheOp) (r : Rule)
    (schema : Schema) :
    let answer := ((runOps RuleCache.step (.new config assign) ops).2.lookup r schema).1
    (answer = .ok .inactive ↔ r.active = false) ∧
      (∀ e, answer = .error e → r.compile schema = .error e) ∧
      (∀ c, answer = .ok (.compiled c) → r.compile schema = .ok c ∨
        ∃ r' schema', CompiledFrom ops r' schema' c ∧ r'.SameRevision r) ∧
      ((∀ r' schema', .lookup r' schema' ∈ ops → r'.active = true → r'.SameRevision r → schema' = schema) →
        ∀ c c', answer = .ok (.compiled c) → r.compile schema = .ok c' →
          c.predicate = c'.predicate ∧ c.stateful = c'.stateful) ∧
      ((∀ r' schema', .lookup r' schema' ∈ ops → r'.active = true → r'.SameRevision r →
          r'.SameTerms r ∧ schema' = schema) →
        answer = r.uncached schema) := by
  intro answer
  have origin : answer = r.uncached schema ∨
      ∃ r' schema' c, CompiledFrom ops r' schema' c ∧ r'.SameRevision r ∧ r.active = true ∧
        answer = .ok (.compiled c) :=
    lookup_origin config assign ops r schema
  refine ⟨?_, ?_, ?_, ?_, ?_⟩
  · rcases origin with fresh | ⟨r', schema', c, -, -, active, cached⟩
    · rw [fresh]
      exact Rule.uncached_eq_inactive_iff
    · simp [cached, active]
  · intro e failed
    rcases origin with fresh | ⟨r', schema', c, -, -, -, cached⟩
    · exact Rule.uncached_eq_error (fresh.symm.trans failed)
    · cases cached.symm.trans failed
  · intro c found
    rcases origin with fresh | ⟨r', schema', k, compiled, same, -, cached⟩
    · exact .inl (Rule.uncached_eq_compiled (fresh.symm.trans found))
    · cases cached.symm.trans found
      exact .inr ⟨r', schema', compiled, same⟩
  · intro one c c' found anew
    rcases origin with fresh | ⟨r', schema', k, compiled, same, -, cached⟩
    · have anew' : r.compile schema = .ok c := Rule.uncached_eq_compiled (fresh.symm.trans found)
      cases anew.symm.trans anew'
      exact ⟨rfl, rfl⟩
    · cases cached.symm.trans found
      cases one r' schema' compiled.mem compiled.active same
      exact Rule.predicate_of_compile same.expression compiled.compiled anew
  · intro one
    rcases origin with fresh | ⟨r', schema', c, compiled, same, active, cached⟩
    · exact fresh
    · obtain ⟨terms, rfl⟩ := one r' schema' compiled.mem compiled.active same
      have anew : r.compile schema' = .ok c := by
        rw [← Rule.compile_congr same terms]
        exact compiled.compiled
      simp [cached, Rule.uncached, active, anew, Except.map]

/-- A second lookup of a rule finds it, after its neighbour of another revision has come and gone. -/
theorem RuleCache.lookup_transparent_hit :
    let schema : Schema := ⟨.sales, [⟨"amount", .decimal, true, []⟩], .empty⟩
    let rule : Rule := ⟨"R1", .sales, .range, "amount > 0", .critical, "", true, 1, "", none, none⟩
    let neighbour : Rule := ⟨"R2", .sales, .business, "amount > 0", .warning, "", true, 1, "", none, none⟩
    let ops : List CacheOp := [.lookup rule schema, .lookup neighbour schema, .invalidate "R2"]
    let cache := (runOps RuleCache.step (.new .standard spread) ops).2
    (∀ r' schema', .lookup r' schema' ∈ ops → r'.active = true → r'.SameRevision rule →
        r'.SameTerms rule ∧ schema' = schema) ∧
      cache.contains "R1" = true ∧ (cache.lookup rule schema).1 = rule.uncached schema := by
  intro schema rule neighbour ops cache
  have one (r' : Rule) (schema' : Schema) (mem : .lookup r' schema' ∈ ops) (active : r'.active = true)
      (same : r'.SameRevision rule) : r'.SameTerms rule ∧ schema' = schema := by
    rcases List.mem_cons.mp mem with here | mem
    · cases here
      exact ⟨⟨rfl, rfl, rfl, rfl⟩, rfl⟩
    · rcases List.mem_cons.mp mem with here | mem
      · cases here
        exact absurd same.id (by decide)
      · cases List.mem_singleton.mp mem
  have held : cache.contains "R1" = true := by decide +kernel
  exact ⟨one, held, (lookup_transparent .standard spread ops rule schema).2.2.2.2 one⟩

/--
Without a new revision neither a raised severity nor a schema that lost the field is noticed: the cached rule
still warns, and it is answered where compiling fails.
-/
theorem RuleCache.lookup_severity_stale :
    let schema : Schema := ⟨.sales, [⟨"amount", .decimal, true, []⟩], .empty⟩
    let rule (severity : Severity) : Rule :=
      ⟨"R1", .sales, .range, "amount > 0", severity, "", true, 1, "", none, none⟩
    let cache := (runOps RuleCache.step (.new .standard spread) [.lookup (rule .warning) schema]).2
    (∃ c c', (cache.lookup (rule .critical) schema).1 = .ok (.compiled c) ∧
      (rule .critical).compile schema = .ok c' ∧ c.severity = .warning ∧ c'.severity = .critical) ∧
    ∃ c e, (cache.lookup (rule .warning) ⟨.sales, [], .empty⟩).1 = .ok (.compiled c) ∧
      (rule .warning).compile ⟨.sales, [], .empty⟩ = .error e := by
  intro schema rule cache
  have severity : (match (cache.lookup (rule .critical) schema).1, (rule .critical).compile schema with
      | .ok (.compiled c), .ok c' => decide (c.severity = .warning ∧ c'.severity = .critical)
      | _, _ => false) = true := by decide +kernel
  have failure : (match (cache.lookup (rule .warning) ⟨.sales, [], .empty⟩).1,
        (rule .warning).compile ⟨.sales, [], .empty⟩ with
      | .ok (.compiled _), .error _ => true
      | _, _ => false) = true := by decide +kernel
  constructor
  · split at severity
    · next c c' found anew => exact ⟨c, c', found, anew, of_decide_eq_true severity⟩
    · cases severity
  · split at failure
    · next c e found failed => exact ⟨c, e, found, failed⟩
    · cases failure

end RecordGate
