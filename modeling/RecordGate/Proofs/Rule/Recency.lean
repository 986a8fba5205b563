import RecordGate.Proofs.Rule.Shards
import RecordGate.Proofs.Sorting

/-!
# The entries of a cache in the order of last access

`RuleCache.Ordered c es` says that `es` are the entries of `c`, the one accessed longest ago first. The
stamps are what the order is read from: they ascend along the list, so they are distinct, and the next
tick of the clock is later than all of them. Each change of a cache has one lemma that says what becomes
of the list; the counters do not matter to it.
-/

namespace RecordGate.RuleCache

/-- `es` are the entries of the cache, the one accessed longest ago first. -/
structure Ordered (c : RuleCache) (es : List (String × CacheEntry)) : Prop where
  placed : c.Placed
  perm : es.Perm c.entries
  ascending : es.Pairwise fun a b => a.2.stamp < b.2.stamp
  stamped : ∀ e ∈ es, e.2.stamp ≤ c.clock
  keyed : ∀ e ∈ es, e.2.compiled.id = e.1
  counted : c.size = es.length

/-- The compiled rules of a cache, the one accessed longest ago first. -/
def byAccess (c : RuleCache) : List CompiledRule :=
  (c.entries.mergeSort fun a b => a.2.stamp ≤ b.2.stamp).map (·.2.compiled)

variable {c : RuleCache} {es : List (String × CacheEntry)} {id : String}

/-- A cache without an entry in any shard has none. -/
theorem ordered_nil (shards_pos : 0 < c.shards.length) (empty : ∀ i, (c.shardAt i).entries = [])
    (counted : c.size = 0) : Ordered c [] := by
  have none (f : String × CacheEntry) : f ∉ c.entries := by
    intro mem
    obtain ⟨i, hf⟩ := mem_entries.mp mem
    rw [empty i] at hf
    exact List.not_mem_nil hf
  refine ⟨⟨shards_pos, fun i f hf => ?_⟩, ?_, .nil, nofun, nofun, counted⟩
  · exact absurd (mem_entries.mpr ⟨i, hf⟩) (none f)
  · rw [List.eq_nil_iff_forall_not_mem.mpr none]

theorem ordered_new (config : CacheConfig) (assign : String → Nat) : Ordered (new config assign) [] := by
  refine ordered_nil ?_ (fun i => ?_) rfl
  · rw [new, List.length_replicate]
    omega
  · rw [shardAt, new, List.getD_eq_getElem?_getD, List.getElem?_replicate]
    split <;> rfl

theorem ordered_invalidateAll (h : Ordered c es) : Ordered c.invalidateAll [] := by
  refine ordered_nil ?_ (fun i => ?_) rfl
  · rw [invalidateAll, List.length_map]
    exact h.placed.shards_pos
  · rw [shardAt, invalidateAll, List.getD_eq_getElem?_getD, List.getElem?_map]
    cases c.shards[i]? <;> rfl

namespace Ordered

theorem nodup_ids (h : Ordered c es) : (es.map Prod.fst).Nodup :=
  (h.perm.map Prod.fst).nodup_iff.mpr h.placed.nodup_ids

theorem nodup (h : Ordered c es) : es.Nodup := .of_map _ h.nodup_ids

theorem mem_iff (h : Ordered c es) {e : CacheEntry} : (id, e) ∈ es ↔ c.get? id = some e := by
  rw [h.perm.mem_iff, h.placed.mem_entries_iff]

/-- Sorting by stamps gives back the order of last access. -/
theorem byAccess_eq (h : Ordered c es) : c.byAccess = es.map (·.2.compiled) := by
  have stamps : (es.map (·.2.stamp)).Nodup := List.pairwise_map.mpr (h.ascending.imp Nat.ne_of_lt)
  have distinct : (c.entries.map (·.2.stamp)).Nodup := (h.perm.map _).nodup_iff.mp stamps
  have sorted : c.entries.mergeSort (fun a b => a.2.stamp ≤ b.2.stamp) = es :=
    mergeSort_eq_of_ascending h.perm.symm (List.inj_on_of_nodup_map distinct) (h.ascending.imp Nat.le_of_lt)
  rw [byAccess, sorted]

/-- An entry that is there stands beside those of the other ids. -/
theorem perm_present (h : Ordered c es) {e : CacheEntry} (present : c.get? id = some e) :
    es.Perm ((id, e) :: es.filter (·.1 != id)) := by
  have removed : (id, e) ∉ es.filter (·.1 != id) := by
    intro mem
    exact bne_iff_ne.mp (List.mem_filter.mp mem).2 rfl
  have distinct : ((id, e) :: es.filter (·.1 != id)).Nodup := List.nodup_cons.mpr ⟨removed, h.nodup.filter _⟩
  refine (List.perm_ext_iff_of_nodup h.nodup distinct).mpr ?_
  rintro ⟨other, f⟩
  rw [List.mem_cons, List.mem_filter, bne_iff_ne, h.mem_iff, Prod.mk.injEq]
  constructor
  · intro holds
    by_cases same : other = id
    · rw [same, present] at holds
      exact .inl ⟨same, (Option.some.inj holds).symm⟩
    · exact .inr ⟨holds, same⟩
  · rintro (⟨rfl, rfl⟩ | ⟨holds, -⟩)
    · exact present
    · exact holds

/-- An id that is not there is not taken out. -/
theorem filter_absent (h : Ordered c es) (absent : c.get? id = none) : es.filter (·.1 != id) = es := by
  refine List.filter_eq_self.mpr fun f hf => bne_iff_ne.mpr ?_
  rintro rfl
  have there := h.mem_iff.mp hf
  rw [absent] at there
  cases there

/-- Dropping an entry leaves the others in their order. -/
theorem drop (h : Ordered c es) {e : CacheEntry} (present : c.get? id = some e) (evictions invalidations : Nat) :
    Ordered { c.drop id with size := c.size - 1, evictions, invalidations } (es.filter (·.1 != id)) where
  placed := ⟨(h.placed.drop id).shards_pos, (h.placed.drop id).shardOf_eq⟩
  perm := (h.perm.filter _).trans (h.placed.perm_drop id).symm
  ascending := h.ascending.filter _
  stamped f hf := h.stamped f (List.mem_of_mem_filter hf)
  keyed f hf := h.keyed f (List.mem_of_mem_filter hf)
  counted := by
    have count := (h.perm_present present).length_eq
    rw [List.length_cons] at count
    change c.size - 1 = _
    rw [h.counted]
    omega

/-- Putting in an entry with the next stamp makes it the last, and leaves the others in their order. -/
theorem put (h : Ordered c es) {k : CompiledRule} (keyed : k.id = id) (hits misses evictions : Nat) {size : Nat}
    (counted : size = (es.filter (·.1 != id)).length + 1) :
    Ordered { c.put id ⟨k, c.clock + 1⟩ with clock := c.clock + 1, size, hits, misses, evictions }
      (es.filter (·.1 != id) ++ [(id, ⟨k, c.clock + 1⟩)]) where
  placed := ⟨(h.placed.put id _).shards_pos, (h.placed.put id _).shardOf_eq⟩
  perm := ((h.perm.filter _).append_right _).trans (h.placed.perm_put id _).symm
  ascending := by
    refine List.pairwise_append.mpr ⟨h.ascending.filter _, List.pairwise_singleton _ _, ?_⟩
    intro f hf last hlast
    rw [List.mem_singleton.mp hlast]
    exact Nat.lt_succ_of_le (h.stamped f (List.mem_of_mem_filter hf))
  stamped f hf := by
    rcases List.mem_append.mp hf with hf | hf
    · exact Nat.le_succ_of_le (h.stamped f (List.mem_of_mem_filter hf))
    · obtain rfl := List.mem_singleton.mp hf
      exact Nat.le_refl _
  keyed f hf := by
    rcases List.mem_append.mp hf with hf | hf
    · exact h.keyed f (List.mem_of_mem_filter hf)
    · rw [List.mem_singleton.mp hf]
      exact keyed
  counted := by
    rw [List.length_append]
    exact counted

end Ordered

/-! ## The oldest entry -/

/-- One step of the search: the older of the best so far and the next entry. -/
def older (best : Option (String × CacheEntry)) (e : String × CacheEntry) : Option (String × CacheEntry) :=
  match best with
  | none => some e
  | some b => if e.2.stamp < b.2.stamp then some e else best

/-- The search ends with an entry that it met, and no entry that it met is older. -/
theorem foldl_older (b : String × CacheEntry) (todo : List (String × CacheEntry)) :
    ∃ m ∈ b :: todo, todo.foldl older (some b) = some m ∧ ∀ f ∈ b :: todo, m.2.stamp ≤ f.2.stamp := by
  induction todo generalizing b with
  | nil => exact ⟨b, List.mem_singleton_self b, rfl, fun f hf => List.mem_singleton.mp hf ▸ Nat.le_refl _⟩
  | cons e rest ih =>
    rw [List.foldl_cons, older]
    split
    · next less =>
      obtain ⟨m, hm, found, least⟩ := ih e
      refine ⟨m, List.mem_cons_of_mem _ hm, found, List.forall_mem_cons.mpr ⟨?_, least⟩⟩
      exact Nat.le_trans (least e List.mem_cons_self) (Nat.le_of_lt less)
    · next notLess =>
      obtain ⟨m, hm, found, least⟩ := ih b
      obtain ⟨leB, leRest⟩ := List.forall_mem_cons.mp least
      have leE : m.2.stamp ≤ e.2.stamp := Nat.le_trans leB (Nat.not_lt.mp notLess)
      refine ⟨m, ?_, found, List.forall_mem_cons.mpr ⟨leB, List.forall_mem_cons.mpr ⟨leE, leRest⟩⟩⟩
      rcases List.mem_cons.mp hm with rfl | hm
      · exact List.mem_cons_self
      · exact List.mem_cons_of_mem _ (List.mem_cons_of_mem _ hm)

/-- **The oldest stamp is that of the first entry in the order of last access.** -/
theorem Ordered.oldest?_eq {first : String × CacheEntry} {rest : List (String × CacheEntry)}
    (h : Ordered c (first :: rest)) : c.oldest? = some first.1 := by
  have unfolded : c.oldest? = (c.entries.foldl older none).map (·.1) := rfl
  rw [unfolded]
  cases entries : c.entries with
  | nil =>
    have perm := h.perm
    rw [entries] at perm
    cases perm.eq_nil
  | cons b todo =>
    obtain ⟨m, hm, found, least⟩ := foldl_older b todo
    rw [← entries] at hm least
    rw [List.foldl_cons, older, found]
    have older : m.2.stamp ≤ first.2.stamp := least first (h.perm.mem_iff.mp List.mem_cons_self)
    rcases List.mem_cons.mp (h.perm.mem_iff.mpr hm) with rfl | later
    · rfl
    · have less := (List.pairwise_cons.mp h.ascending).1 m later
      omega

end RecordGate.RuleCache
