import Mathlib.Data.List.GetD
import RecordGate.Proofs.Record
import RecordGate.Rule.Cache

/-!
# The shards of a cache as one table

As long as every entry lies in the shard of its id (`RuleCache.Placed`), the shards together are one
table: an id holds an entry exactly when the entry is among `RuleCache.entries`, each id once, and
`put` and `drop` change one id and no other. How ids are assigned to shards does not matter.
-/

namespace RecordGate.RuleCache

variable {c : RuleCache} {id other : String} {e : CacheEntry} {s : Record CacheEntry}

/-- The shard of a number; past the last it is empty. -/
def shardAt (c : RuleCache) (i : Nat) : Record CacheEntry := c.shards.getD i .empty

/-- There is a shard, and every entry lies in the shard of its id. -/
structure Placed (c : RuleCache) : Prop where
  shards_pos : 0 < c.shards.length
  shardOf_eq : ∀ i, ∀ f ∈ (c.shardAt i).entries, c.shardOf f.1 = i

/-- The cache with the shard of an id replaced. -/
def withShard (c : RuleCache) (id : String) (s : Record CacheEntry) : RuleCache :=
  { c with shards := c.shards.set (c.shardOf id) s }

theorem put_eq (c : RuleCache) (id : String) (e : CacheEntry) : c.put id e = c.withShard id ((c.shard id).set id e) :=
  rfl

theorem drop_eq (c : RuleCache) (id : String) : c.drop id = c.withShard id ((c.shard id).erase id) := rfl

/-! ## Replacing one shard -/

theorem shardOf_withShard (c : RuleCache) (id : String) (s : Record CacheEntry) (other : String) :
    (c.withShard id s).shardOf other = c.shardOf other := by
  rw [shardOf, shardOf, withShard, List.length_set]

theorem Placed.shardOf_lt (h : c.Placed) (id : String) : c.shardOf id < c.shards.length :=
  Nat.mod_lt _ h.shards_pos

theorem Placed.shardAt_withShard (h : c.Placed) (id : String) (s : Record CacheEntry) (i : Nat) :
    (c.withShard id s).shardAt i = if c.shardOf id = i then s else c.shardAt i := by
  have lt := h.shardOf_lt id
  rw [shardAt, shardAt, RuleCache.withShard, List.getD_eq_getElem?_getD, List.getD_eq_getElem?_getD]
  by_cases same : c.shardOf id = i
  · rw [if_pos same, ← same, List.getElem?_set_self lt, Option.getD_some]
  · rw [if_neg same, List.getElem?_set_ne same]

theorem Placed.withShard (h : c.Placed) (hs : ∀ f ∈ s.entries, c.shardOf f.1 = c.shardOf id) :
    (c.withShard id s).Placed := by
  refine ⟨?_, fun i f hf => ?_⟩
  · rw [RuleCache.withShard, List.length_set]
    exact h.shards_pos
  · rw [shardOf_withShard]
    rw [h.shardAt_withShard] at hf
    split at hf
    · next same => exact same ▸ hs f hf
    · exact h.shardOf_eq i f hf

/-! ## One table -/

theorem mem_entries {f : String × CacheEntry} : f ∈ c.entries ↔ ∃ i, f ∈ (c.shardAt i).entries := by
  rw [entries, List.mem_flatMap]
  constructor
  · rintro ⟨s, hs, hf⟩
    obtain ⟨i, hi, rfl⟩ := List.mem_iff_getElem.mp hs
    refine ⟨i, ?_⟩
    rwa [shardAt, List.getD_eq_getElem _ _ hi]
  · rintro ⟨i, hf⟩
    by_cases hi : i < c.shards.length
    · rw [shardAt, List.getD_eq_getElem _ _ hi] at hf
      exact ⟨c.shards[i], List.getElem_mem hi, hf⟩
    · rw [shardAt, List.getD_eq_default _ _ (Nat.not_lt.mp hi)] at hf
      exact absurd hf List.not_mem_nil

/-- An entry is what its id holds. -/
theorem Placed.mem_entries_iff (h : c.Placed) : (id, e) ∈ c.entries ↔ c.get? id = some e := by
  rw [mem_entries]
  constructor
  · rintro ⟨i, hf⟩
    rw [← h.shardOf_eq i _ hf] at hf
    exact Record.mem_entries_iff.mp hf
  · exact fun holds => ⟨c.shardOf id, Record.mem_entries_iff.mpr holds⟩

theorem Placed.nodup_ids (h : c.Placed) : (c.entries.map Prod.fst).Nodup := by
  rw [entries, List.map_flatMap, List.nodup_flatMap]
  refine ⟨fun s _ => s.nodup_names, List.pairwise_iff_getElem.mpr fun i j hi hj less => ?_⟩
  intro name inI inJ
  obtain ⟨f, hf, rfl⟩ := List.mem_map.mp inI
  obtain ⟨g, hg, same⟩ := List.mem_map.mp inJ
  rw [← List.getD_eq_getElem c.shards .empty hi] at hf
  rw [← List.getD_eq_getElem c.shards .empty hj] at hg
  have shardI := h.shardOf_eq i f hf
  have shardJ := h.shardOf_eq j g hg
  rw [same] at shardJ
  exact Nat.ne_of_lt less (shardI.symm.trans shardJ)

theorem Placed.get?_withShard (h : c.Placed) (id : String) (s : Record CacheEntry) (other : String) :
    (c.withShard id s).get? other = if c.shardOf id = c.shardOf other then s.get? other else c.get? other := by
  change ((c.withShard id s).shardAt _).get? other = _
  rw [shardOf_withShard, h.shardAt_withShard]
  split <;> rfl

theorem get?_of_shardOf_eq (same : c.shardOf id = c.shardOf other) : (c.shard id).get? other = c.get? other := by
  rw [get?, shard, shard, same]

/-- **Putting in changes one id.** -/
theorem Placed.get?_put (h : c.Placed) (id : String) (e : CacheEntry) (other : String) :
    (c.put id e).get? other = if id = other then some e else c.get? other := by
  rw [put_eq, h.get?_withShard, Record.get?_set]
  by_cases same : id = other
  · rw [if_pos same, if_pos same, if_pos (congrArg c.shardOf same)]
  · rw [if_neg same, if_neg same]
    split
    · next shards => exact get?_of_shardOf_eq shards
    · rfl

/-- **Dropping changes one id.** -/
theorem Placed.get?_drop (h : c.Placed) (id other : String) :
    (c.drop id).get? other = if id = other then none else c.get? other := by
  rw [drop_eq, h.get?_withShard, Record.get?_erase]
  by_cases same : id = other
  · rw [if_pos same, if_pos same, if_pos (congrArg c.shardOf same)]
  · rw [if_neg same, if_neg same]
    split
    · next shards => exact get?_of_shardOf_eq shards
    · rfl

theorem Placed.put (h : c.Placed) (id : String) (e : CacheEntry) : (c.put id e).Placed := by
  refine h.withShard fun f hf => ?_
  rcases Record.mem_insertEntry hf with rfl | hf
  · rfl
  · exact h.shardOf_eq (c.shardOf id) f hf

theorem Placed.drop (h : c.Placed) (id : String) : (c.drop id).Placed :=
  h.withShard fun f hf => h.shardOf_eq (c.shardOf id) f (List.mem_of_mem_filter hf)

theorem Placed.nodup_entries (h : c.Placed) : c.entries.Nodup := .of_map _ h.nodup_ids

/-! ## The table as a list -/

/-- After an entry is put in, it stands beside the entries of the other ids. -/
theorem Placed.perm_put (h : c.Placed) (id : String) (e : CacheEntry) :
    (c.put id e).entries.Perm (c.entries.filter (·.1 != id) ++ [(id, e)]) := by
  have fresh : (id, e) ∉ c.entries.filter (·.1 != id) := by
    intro mem
    exact bne_iff_ne.mp (List.mem_filter.mp mem).2 rfl
  have distinct : (c.entries.filter (·.1 != id) ++ [(id, e)]).Nodup :=
    (List.nodup_append_comm.mp (List.nodup_cons.mpr ⟨fresh, h.nodup_entries.filter _⟩))
  refine (List.perm_ext_iff_of_nodup (h.put id e).nodup_entries distinct).mpr ?_
  rintro ⟨other, f⟩
  rw [(h.put id e).mem_entries_iff, List.mem_append, List.mem_filter, h.mem_entries_iff, h.get?_put, bne_iff_ne,
    List.mem_singleton, Prod.mk.injEq]
  split
  · next same =>
    refine ⟨fun holds => .inr ⟨same.symm, (Option.some.inj holds).symm⟩, ?_⟩
    rintro (⟨-, ne⟩ | ⟨-, rfl⟩)
    · exact absurd same.symm ne
    · rfl
  · next ne =>
    refine ⟨fun holds => .inl ⟨holds, Ne.symm ne⟩, ?_⟩
    rintro (⟨holds, -⟩ | ⟨same, -⟩)
    · exact holds
    · exact absurd same.symm ne

/-- After an entry is dropped, the entries of the other ids are left. -/
theorem Placed.perm_drop (h : c.Placed) (id : String) :
    (c.drop id).entries.Perm (c.entries.filter (·.1 != id)) := by
  refine (List.perm_ext_iff_of_nodup (h.drop id).nodup_entries (h.nodup_entries.filter _)).mpr ?_
  rintro ⟨other, f⟩
  rw [(h.drop id).mem_entries_iff, List.mem_filter, h.mem_entries_iff, h.get?_drop, bne_iff_ne]
  split
  · next same => exact ⟨nofun, fun both => absurd same.symm both.2⟩
  · next ne => exact ⟨fun holds => ⟨holds, Ne.symm ne⟩, And.left⟩

end RecordGate.RuleCache
