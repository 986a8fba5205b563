import RecordGate.Proofs.Rule.Lru
import RecordGate.Proofs.Rule.Recency
import RecordGate.Proofs.Rule.Soundness

/-!
# The cache is a bounded list in the order of last access

`RuleCache.Refines c l` relates a cache to the list that it stands for. Every operation keeps the relation
and answers alike (`Refines.step`), so a whole run does (`Refines.run`).

Main statement: whatever the capacity, the shards and the operations, a cache answers as the list does and
holds its rules in the same order.
-/

namespace RecordGate

/-- The cache stands for the list. -/
structure RuleCache.Refines (c : RuleCache) (l : Lru) : Prop where
  rules : ∃ es, c.Ordered es ∧ es.map (·.2.compiled) = l.rules
  capacity : c.capacity = l.capacity
  capacity_pos : 0 < c.capacity
  bounded : c.size ≤ c.capacity
  hits : c.hits = l.hits
  misses : c.misses = l.misses
  evictions : c.evictions = l.evictions
  invalidations : c.invalidations = l.invalidations

open RuleCache

section Lists

variable {c : RuleCache} {es : List (String × CacheEntry)} {id : String}

/-- In the list the ids are those of the rules. -/
theorem RuleCache.Ordered.map_id (h : c.Ordered es) :
    (es.map (·.2.compiled)).map CompiledRule.id = es.map Prod.fst := by
  rw [List.map_map]
  exact List.map_congr_left h.keyed

theorem RuleCache.Ordered.map_filter (h : c.Ordered es) :
    (es.filter (·.1 != id)).map (·.2.compiled) = (es.map (·.2.compiled)).filter (·.id != id) := by
  rw [List.filter_map]
  refine congrArg _ (List.filter_congr fun e he => ?_)
  rw [Function.comp, h.keyed e he]

end Lists

namespace RuleCache.Refines

variable {c : RuleCache} {l : Lru} {id : String}

theorem size_eq (h : c.Refines l) : c.size = l.rules.length := by
  obtain ⟨es, ordered, rules⟩ := h.rules
  rw [ordered.counted, ← rules, List.length_map]

theorem mem_rules (h : c.Refines l) {k : CompiledRule} :
    k ∈ l.rules ↔ ∃ e, c.get? k.id = some e ∧ e.compiled = k := by
  obtain ⟨es, ordered, rules⟩ := h.rules
  rw [← rules, List.mem_map]
  constructor
  · rintro ⟨⟨key, e⟩, he, rfl⟩
    refine ⟨e, ?_, rfl⟩
    rw [ordered.keyed _ he]
    exact ordered.mem_iff.mp he
  · rintro ⟨e, holds, same⟩
    exact ⟨(k.id, e), ordered.mem_iff.mpr holds, same⟩

/-- The rule of an entry has the id of the entry. -/
theorem id_of_get? (h : c.Refines l) {e : CacheEntry} (holds : c.get? id = some e) : e.compiled.id = id := by
  obtain ⟨es, ordered, -⟩ := h.rules
  exact ordered.keyed _ (ordered.mem_iff.mpr holds)

theorem find?_none (h : c.Refines l) (absent : c.get? id = none) : l.find? id = none := by
  refine List.find?_eq_none.mpr fun k hk found => ?_
  obtain ⟨e, holds, -⟩ := h.mem_rules.mp hk
  rw [beq_iff_eq.mp found, absent] at holds
  cases holds

theorem find?_some (h : c.Refines l) {e : CacheEntry} (holds : c.get? id = some e) :
    l.find? id = some e.compiled := by
  have key := h.id_of_get? holds
  have mem : e.compiled ∈ l.rules := h.mem_rules.mpr ⟨e, key.symm ▸ holds, rfl⟩
  cases found : l.find? id with
  | none => exact absurd (beq_iff_eq.mpr key) (List.find?_eq_none.mp found _ mem)
  | some k =>
    have same : (k.id == id) = true := List.find?_some (p := fun k : CompiledRule => k.id == id) found
    obtain ⟨f, holdsF, rfl⟩ := h.mem_rules.mp (List.mem_of_find?_eq_some found)
    rw [beq_iff_eq.mp same, holds] at holdsF
    rw [Option.some.inj holdsF]

theorem find?_eq (h : c.Refines l) (id : String) : (c.get? id).map (·.compiled) = l.find? id := by
  cases holds : c.get? id with
  | none => exact (h.find?_none holds).symm
  | some e => exact (h.find?_some holds).symm

theorem byAccess_eq (h : c.Refines l) : c.byAccess = l.rules := by
  obtain ⟨es, ordered, rules⟩ := h.rules
  rw [ordered.byAccess_eq, rules]

theorem nodup_ids (h : c.Refines l) : (l.rules.map CompiledRule.id).Nodup := by
  obtain ⟨es, ordered, rules⟩ := h.rules
  rw [← rules, ordered.map_id]
  exact ordered.nodup_ids

theorem stats_eq (h : c.Refines l) : c.stats = l.stats := by
  rw [RuleCache.stats, Lru.stats, h.hits, h.misses, h.evictions, h.invalidations, h.size_eq]

/-- The size that is kept is the number of entries. -/
theorem length_entries (h : c.Refines l) : c.size = c.entries.length := by
  obtain ⟨es, ordered, -⟩ := h.rules
  rw [ordered.counted, ordered.perm.length_eq]

/-! ## One operation at a time -/

theorem drop (h : c.Refines l) {e : CacheEntry} (holds : c.get? id = some e) {n n' m m' : Nat}
    (evictions : n = n') (invalidations : m = m') :
    Refines { c.drop id with size := c.size - 1, evictions := n, invalidations := m }
      { l with rules := l.others id, evictions := n', invalidations := m' } := by
  obtain ⟨es, ordered, rules⟩ := h.rules
  refine ⟨⟨_, ordered.drop holds n m, ?_⟩, h.capacity, h.capacity_pos, Nat.le_trans (Nat.sub_le _ _) h.bounded,
    h.hits, h.misses, evictions, invalidations⟩
  rw [ordered.map_filter, rules]
  rfl

theorem invalidate (h : c.Refines l) (id : String) :
    (c.invalidate id).1 = (l.invalidate id).1 ∧ (c.invalidate id).2.Refines (l.invalidate id).2 := by
  cases holds : c.get? id with
  | none =>
    rw [RuleCache.invalidate, Lru.invalidate, h.find?_none holds, contains, holds]
    exact ⟨rfl, h⟩
  | some e =>
    rw [RuleCache.invalidate, Lru.invalidate, h.find?_some holds, contains, holds]
    exact ⟨rfl, h.drop holds h.evictions (congrArg (· + 1) h.invalidations)⟩

theorem get?_invalidate (h : c.Refines l) (id other : String) :
    (c.invalidate id).2.get? other = if id = other then none else c.get? other := by
  obtain ⟨es, ordered, -⟩ := h.rules
  cases holds : c.get? id with
  | none =>
    rw [RuleCache.invalidate, contains, holds]
    by_cases same : id = other
    · rw [if_pos same, ← same]
      exact holds
    · rw [if_neg same]
      rfl
  | some e =>
    rw [RuleCache.invalidate, contains, holds]
    exact ordered.placed.get?_drop id other

theorem invalidateAll (h : c.Refines l) : c.invalidateAll.Refines l.invalidateAll := by
  obtain ⟨es, ordered, rules⟩ := h.rules
  refine ⟨⟨[], ordered_invalidateAll ordered, rfl⟩, h.capacity, h.capacity_pos, Nat.zero_le _, h.hits, h.misses,
    h.evictions, ?_⟩
  change c.invalidations + c.entries.length = l.invalidations + l.rules.length
  rw [h.invalidations, ← ordered.perm.length_eq, ← rules, List.length_map]

/-- **A full cache loses exactly the entry accessed longest ago.** -/
theorem evict (h : c.Refines l) (full : c.capacity ≤ c.size) :
    c.evict.Refines { l with rules := l.rules.tail, evictions := l.evictions + 1 } ∧
      c.evict.size < c.evict.capacity ∧ ∀ id, c.get? id = none → c.evict.get? id = none := by
  obtain ⟨es, ordered, rules⟩ := h.rules
  have pos := h.capacity_pos
  have bounded := h.bounded
  cases es with
  | nil =>
    have empty : c.size = 0 := ordered.counted
    omega
  | cons first rest =>
    have holds : c.get? first.1 = some first.2 := ordered.mem_iff.mp List.mem_cons_self
    have fresh : ∀ f ∈ rest, f.1 ≠ first.1 := by
      intro f hf same
      exact (List.nodup_cons.mp ordered.nodup_ids).1 (same ▸ List.mem_map_of_mem hf)
    have kept : (first :: rest).filter (·.1 != first.1) = rest := by
      rw [List.filter_cons_of_neg (by rw [bne_self_eq_false]; exact Bool.false_ne_true)]
      exact List.filter_eq_self.mpr fun f hf => bne_iff_ne.mpr (fresh f hf)
    have tail : l.others first.1 = l.rules.tail := by
      rw [Lru.others, ← rules, ← ordered.map_filter, kept, List.map_cons, List.tail_cons]
    rw [RuleCache.evict, ordered.oldest?_eq]
    refine ⟨tail ▸ h.drop holds (congrArg (· + 1) h.evictions) h.invalidations, ?_, fun id absent => ?_⟩
    · change c.size - 1 < c.capacity
      omega
    refine (ordered.placed.get?_drop first.1 id).trans ?_
    rw [absent]
    split <;> rfl

/-- A rule that is there is moved to the end. -/
theorem touch (h : c.Refines l) {e : CacheEntry} (holds : c.get? id = some e) :
    Refines { c.put id { e with stamp := c.clock + 1 } with clock := c.clock + 1, hits := c.hits + 1 }
      { l with rules := l.others id ++ [e.compiled], hits := l.hits + 1 } := by
  obtain ⟨es, ordered, rules⟩ := h.rules
  have counted : c.size = (es.filter (·.1 != id)).length + 1 :=
    ordered.counted.trans (ordered.perm_present holds).length_eq
  refine ⟨⟨_, ordered.put (h.id_of_get? holds) (c.hits + 1) c.misses c.evictions counted, ?_⟩, h.capacity,
    h.capacity_pos, h.bounded, congrArg (· + 1) h.hits, h.misses, h.evictions, h.invalidations⟩
  rw [List.map_append, ordered.map_filter, rules]
  rfl

/-- A rule that is not there is put at the end. -/
theorem append (h : c.Refines l) {k : CompiledRule} (absent : c.get? k.id = none) (room : c.size < c.capacity) :
    Refines { c.put k.id ⟨k, c.clock + 1⟩ with size := c.size + 1, clock := c.clock + 1 } (l.append k) := by
  obtain ⟨es, ordered, rules⟩ := h.rules
  have kept := ordered.filter_absent absent
  have counted : c.size + 1 = (es.filter (·.1 != k.id)).length + 1 := by rw [kept, ordered.counted]
  refine ⟨⟨_, ordered.put rfl c.hits c.misses c.evictions counted, ?_⟩, h.capacity, h.capacity_pos, room, h.hits,
    h.misses, h.evictions, h.invalidations⟩
  rw [List.map_append, kept, rules]
  rfl

theorem insert (h : c.Refines l) {k : CompiledRule} (absent : c.get? k.id = none) :
    (c.insert k).Refines (l.makeRoom.append k) := by
  have size := h.size_eq
  have capacity := h.capacity
  unfold RuleCache.insert Lru.makeRoom
  by_cases full : c.capacity ≤ c.size
  · rw [if_pos full, if_pos (by omega)]
    obtain ⟨evicted, room, still⟩ := h.evict full
    exact evicted.append (still k.id absent) room
  · rw [if_neg full, if_neg (by omega)]
    exact h.append absent (Nat.not_le.mp full)

theorem compileMissing (h : c.Refines l) {r : Rule} (absent : c.get? r.id = none) (schema : Schema) :
    (c.compileMissing r schema).1 = (l.compileMissing r schema).1 ∧
      (c.compileMissing r schema).2.Refines (l.compileMissing r schema).2 := by
  have missed : Refines { c with misses := c.misses + 1 } { l with misses := l.misses + 1 } := by
    obtain ⟨es, ordered, rules⟩ := h.rules
    exact ⟨⟨es, ⟨⟨ordered.placed.shards_pos, ordered.placed.shardOf_eq⟩, ordered.perm, ordered.ascending,
      ordered.stamped, ordered.keyed, ordered.counted⟩, rules⟩, h.capacity, h.capacity_pos, h.bounded,
      h.hits, congrArg (· + 1) h.misses, h.evictions, h.invalidations⟩
  unfold RuleCache.compileMissing Lru.compileMissing
  cases compiled : r.compile schema with
  | error e => exact ⟨rfl, missed⟩
  | ok k =>
    have key : k.id = r.id := by
      obtain ⟨e, t, -, -, -, rfl⟩ := Rule.compile_ok compiled
      rfl
    exact ⟨rfl, missed.insert (key ▸ absent)⟩

theorem lookup (h : c.Refines l) (r : Rule) (schema : Schema) :
    (c.lookup r schema).1 = (l.lookup r schema).1 ∧ (c.lookup r schema).2.Refines (l.lookup r schema).2 := by
  unfold RuleCache.lookup Lru.lookup
  split
  · exact ⟨rfl, (h.invalidate r.id).2⟩
  · cases holds : c.get? r.id with
    | none =>
      rw [h.find?_none holds]
      exact h.compileMissing holds schema
    | some e =>
      rw [h.find?_some holds]
      dsimp only
      split
      · exact ⟨rfl, h.touch holds⟩
      · exact (h.invalidate r.id).2.compileMissing ((h.get?_invalidate r.id r.id).trans (if_pos rfl)) schema

/-! ## Refreshing -/

/-- One step of a refresh. -/
def sweep (store : Repository) (state : Nat × RuleCache) (f : String × CacheEntry) : Nat × RuleCache :=
  if store.revision? f.1 = some f.2.compiled.revision then state
  else
    let (dropped, c) := state.2.invalidate f.1
    (if dropped then state.1 + 1 else state.1, c)

/-- The entries among the given ones whose revision is not the stored one. -/
def stale (store : Repository) (todo : List (String × CacheEntry)) : List (String × CacheEntry) :=
  todo.filter fun f => store.revision? f.1 ≠ some f.2.compiled.revision

/-- A refresh that has the given entries before it drops those of them that are stale. -/
theorem foldl_sweep (h : c.Refines l) (store : Repository) {todo : List (String × CacheEntry)}
    (distinct : (todo.map Prod.fst).Nodup) (holds : ∀ f ∈ todo, c.get? f.1 = some f.2) (n : Nat) :
    (todo.foldl (sweep store) (n, c)).1 = n + (stale store todo).length ∧
      (todo.foldl (sweep store) (n, c)).2.Refines
        { l with
          rules := l.rules.filter fun k => !(stale store todo).any (·.1 == k.id)
          invalidations := l.invalidations + (stale store todo).length } := by
  induction todo generalizing c l n with
  | nil =>
    have all : l.rules.filter (fun k => !(stale store []).any (·.1 == k.id)) = l.rules :=
      List.filter_eq_self.mpr fun _ _ => rfl
    rw [all]
    exact ⟨rfl, h⟩
  | cons f rest ih =>
    obtain ⟨fresh, distinct⟩ := List.nodup_cons.mp distinct
    obtain ⟨here, later⟩ := List.forall_mem_cons.mp holds
    rw [List.foldl_cons, stale, List.filter_cons, sweep]
    by_cases current : store.revision? f.1 = some f.2.compiled.revision
    · rw [if_pos current, if_neg (by simpa using current)]
      exact ih h distinct later n
    · rw [if_neg current, if_pos (by simpa using current)]
      obtain ⟨answer, dropped⟩ := h.invalidate f.1
      have present : (c.invalidate f.1).1 = true := by
        rw [RuleCache.invalidate, contains, here]
        rfl
      have left : (l.invalidate f.1).2 =
          { l with rules := l.others f.1, invalidations := l.invalidations + 1 } := by
        rw [Lru.invalidate, h.find?_some here]
      have remaining : ∀ g ∈ rest, (c.invalidate f.1).2.get? g.1 = some g.2 := by
        intro g hg
        have other : f.1 ≠ g.1 := fun same => fresh (same ▸ List.mem_map_of_mem hg)
        rw [h.get?_invalidate, if_neg other]
        exact later g hg
      rw [left] at dropped
      obtain ⟨count, refines⟩ := ih dropped distinct remaining (n + 1)
      simp only [present, if_true]
      refine ⟨?_, ?_⟩
      · rw [count, List.length_cons, stale]
        omega
      · have rules : (l.others f.1).filter (fun k => !(stale store rest).any (·.1 == k.id)) =
            l.rules.filter fun k => !(f :: stale store rest).any (·.1 == k.id) := by
          rw [Lru.others, List.filter_filter]
          refine congrArg (List.filter · l.rules) (funext fun k => ?_)
          rw [List.any_cons, Bool.not_or, Bool.and_comm, bne, BEq.comm]
        have number : l.invalidations + 1 + (stale store rest).length =
            l.invalidations + (f :: stale store rest).length := by
          rw [List.length_cons]
          omega
        rw [rules, number] at refines
        exact refines

/-- What a refresh looks at in an entry is what the list looks at in its rule. -/
theorem stale_iff (h : c.Refines l) {store : Repository} {f : String × CacheEntry} (hf : f ∈ c.entries) :
    decide (store.revision? f.1 ≠ some f.2.compiled.revision) = !Lru.isCurrent store f.2.compiled := by
  obtain ⟨es, ordered, -⟩ := h.rules
  rw [Lru.isCurrent, ordered.keyed f (ordered.perm.mem_iff.mpr hf), decide_not]

theorem any_stale (h : c.Refines l) {store : Repository} {k : CompiledRule} (hk : k ∈ l.rules) :
    (stale store c.entries).any (·.1 == k.id) = !Lru.isCurrent store k := by
  obtain ⟨es, ordered, -⟩ := h.rules
  obtain ⟨e, holds, rfl⟩ := h.mem_rules.mp hk
  have mem := ordered.placed.mem_entries_iff.mpr holds
  rw [Bool.eq_iff_iff, List.any_eq_true]
  constructor
  · rintro ⟨f, hf, same⟩
    obtain ⟨hf, isStale⟩ := List.mem_filter.mp hf
    have holdsF : c.get? f.1 = some f.2 := ordered.placed.mem_entries_iff.mp hf
    rw [beq_iff_eq.mp same, holds] at holdsF
    rw [h.stale_iff hf] at isStale
    rw [Option.some.inj holdsF]
    exact isStale
  · intro isStale
    refine ⟨_, List.mem_filter.mpr ⟨mem, ?_⟩, beq_self_eq_true _⟩
    rw [h.stale_iff mem]
    exact isStale

theorem refresh (h : c.Refines l) (store : Repository) :
    (c.refresh store).1 = (l.refresh store).1 ∧ (c.refresh store).2.Refines (l.refresh store).2 := by
  obtain ⟨es, ordered, rules⟩ := h.rules
  have unfolded : c.refresh store = c.entries.foldl (sweep store) (0, c) := rfl
  obtain ⟨count, swept⟩ := h.foldl_sweep store ordered.placed.nodup_ids
    (fun f hf => ordered.placed.mem_entries_iff.mp hf) 0
  have number : (stale store c.entries).length = l.rules.countP (!Lru.isCurrent store ·) := by
    rw [stale, ← List.countP_eq_length_filter, ← rules, List.countP_map, ordered.perm.countP_eq]
    refine List.countP_congr fun f hf => ?_
    rw [h.stale_iff hf]
    rfl
  have kept : l.rules.filter (fun k => !(stale store c.entries).any (·.1 == k.id)) =
      l.rules.filter (Lru.isCurrent store) := by
    refine List.filter_congr fun k hk => ?_
    rw [h.any_stale hk, Bool.not_not]
  rw [unfolded]
  rw [kept, number] at swept
  rw [number, Nat.zero_add] at count
  exact ⟨count, swept⟩

theorem step (h : c.Refines l) (op : CacheOp) :
    (c.step op).1 = (l.step op).1 ∧ (c.step op).2.Refines (l.step op).2 := by
  cases op with
  | lookup r schema => exact (h.lookup r schema).imp_left (congrArg _)
  | invalidate key => exact (h.invalidate key).imp_left (congrArg _)
  | invalidateAll => exact ⟨rfl, h.invalidateAll⟩
  | refresh store => exact (h.refresh store).imp_left (congrArg _)

/-- **A run on the cache is a run on the list**: the answers are the same and the relation is kept. -/
theorem run (h : c.Refines l) (ops : List CacheOp) :
    (runOps RuleCache.step c ops).1 = (runOps Lru.step l ops).1 ∧
      (runOps RuleCache.step c ops).2.Refines (runOps Lru.step l ops).2 := by
  induction ops generalizing c l with
  | nil => exact ⟨rfl, h⟩
  | cons op ops ih =>
    obtain ⟨answer, next⟩ := h.step op
    obtain ⟨answers, last⟩ := ih next
    refine ⟨?_, last⟩
    change _ :: _ = _ :: _
    rw [answer, answers]

theorem new (config : CacheConfig) (assign : String → Nat) :
    (RuleCache.new config assign).Refines (Lru.new config) :=
  ⟨⟨[], ordered_new config assign, rfl⟩, rfl, Nat.le_max_right _ _, Nat.zero_le _, rfl, rfl, rfl, rfl⟩

end RuleCache.Refines

/--
**From an empty cache every run is a run on the list of rules in the order of last access.** The answers
are the same; afterwards the rules by access, the counters and what each id finds are those of the list,
no id is there twice, the size is the number of entries and at most the capacity.
-/
theorem RuleCache.run_refines_list (config : CacheConfig) (assign : String → Nat) (ops : List CacheOp) :
    let cache := runOps RuleCache.step (.new config assign) ops
    let list := runOps Lru.step (.new config) ops
    cache.1 = list.1 ∧
    cache.2.byAccess = list.2.rules ∧
    cache.2.stats = list.2.stats ∧
    (∀ id, (cache.2.get? id).map (·.compiled) = list.2.find? id) ∧
    (list.2.rules.map CompiledRule.id).Nodup ∧
    cache.2.size = cache.2.entries.length ∧
    cache.2.size ≤ max config.capacity 1 := by
  intro cache list
  obtain ⟨answers, refines⟩ : cache.1 = list.1 ∧ cache.2.Refines list.2 := (Refines.new config assign).run ops
  have capacity : cache.2.capacity = max config.capacity 1 :=
    refines.capacity.trans ((Lru.new config).capacity_run ops)
  refine ⟨answers, refines.byAccess_eq, refines.stats_eq, refines.find?_eq, refines.nodup_ids,
    refines.length_entries, ?_⟩
  rw [← capacity]
  exact refines.bounded

end RecordGate
