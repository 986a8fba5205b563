import RecordGate.Json.Decode
import RecordGate.Rule.Compiled
import RecordGate.Rule.Repository

/-!
# The cache of compiled rules

A bounded cache by rule id. Entries lie in shards, and a given function assigns ids to shards. Every
access stamps its entry with the next tick of a clock; when the cache is full, the entry with the
oldest stamp makes room. An entry compiled from another revision is dropped on access.

Main definitions: `RuleCache`, `RuleCache.lookup`, `RuleCache.refresh`.
-/

namespace RecordGate

/-- The size of a cache. -/
structure CacheConfig where
  capacity : Nat
  shards : Nat
deriving DecidableEq

def CacheConfig.standard : CacheConfig := ⟨256, 16⟩

/-- Reads a size; what is not given is standard. -/
def CacheConfig.ofJson? (j : Json) : Option CacheConfig := do
  let j ← j.asObject? ["capacity", "shards"]
  let capacity ← j.defaulted? "capacity" standard.capacity Json.nat?
  let shards ← j.defaulted? "shards" standard.shards Json.nat?
  return ⟨capacity, shards⟩

def CacheConfig.toJson (c : CacheConfig) : Json :=
  .obj [("capacity", .ofNat c.capacity), ("shards", .ofNat c.shards)]

/-- A compiled rule and the tick of its last access. -/
structure CacheEntry where
  compiled : CompiledRule
  stamp : Nat

/-- The cache. `size` is kept beside the shards so that it need not be counted. -/
structure RuleCache where
  capacity : Nat
  /-- The shard of an id; taken modulo the number of shards. -/
  assign : String → Nat
  shards : List (Record CacheEntry)
  clock : Nat
  size : Nat
  hits : Nat
  misses : Nat
  evictions : Nat
  invalidations : Nat

/-- The counters of a cache. -/
structure CacheStats where
  hits : Nat
  misses : Nat
  evictions : Nat
  invalidations : Nat
  entries : Nat
deriving DecidableEq

/-- The part of the lookups that were hits, with six decimals; zero before the first lookup. -/
def CacheStats.hitRatioText (s : CacheStats) : String :=
  let ratio := if s.hits + s.misses == 0 then some .zero else Binary64.ofRatio? false s.hits (s.hits + s.misses)
  String.ofList ((ratio.getD .zero).fixedChars 6)

/-- The answer to a request for a rule. -/
inductive Lookup where
  | compiled (c : CompiledRule)
  | inactive

namespace RuleCache

/-- An empty cache. Capacity and number of shards are at least 1. -/
def new (config : CacheConfig) (assign : String → Nat) : RuleCache :=
  ⟨max config.capacity 1, assign, List.replicate (max config.shards 1) .empty, 0, 0, 0, 0, 0, 0⟩

/-- An assignment of ids to shards that spreads them. -/
def spread (id : String) : Nat := id.toList.foldl (fun h c => (h * 31 + c.toNat) % 1000003) 7

/-- The number of the shard of an id. -/
def shardOf (c : RuleCache) (id : String) : Nat := c.assign id % c.shards.length

/-- The shard of an id. -/
def shard (c : RuleCache) (id : String) : Record CacheEntry := c.shards.getD (c.shardOf id) .empty

/-- The entry of an id. -/
def get? (c : RuleCache) (id : String) : Option CacheEntry := (c.shard id).get? id

def contains (c : RuleCache) (id : String) : Bool := (c.get? id).isSome

/-- All entries, shard by shard. -/
def entries (c : RuleCache) : List (String × CacheEntry) := c.shards.flatMap (·.entries)

/-- Puts an entry into the shard of its id. -/
def put (c : RuleCache) (id : String) (e : CacheEntry) : RuleCache :=
  { c with shards := c.shards.set (c.shardOf id) ((c.shard id).set id e) }

/-- Takes an entry out of the shard of its id. -/
def drop (c : RuleCache) (id : String) : RuleCache :=
  { c with shards := c.shards.set (c.shardOf id) ((c.shard id).erase id) }

/-- The id of the entry with the oldest stamp. -/
def oldest? (c : RuleCache) : Option String :=
  (c.entries.foldl (fun best e =>
    match best with
    | none => some e
    | some b => if e.2.stamp < b.2.stamp then some e else best) none).map (·.1)

/-- Makes room for one entry. -/
def evict (c : RuleCache) : RuleCache :=
  match c.oldest? with
  | some id => { c.drop id with size := c.size - 1, evictions := c.evictions + 1 }
  | none => c

/-- Drops the entry of an id. The answer tells whether there was one. -/
def invalidate (c : RuleCache) (id : String) : Bool × RuleCache :=
  if c.contains id then (true, { c.drop id with size := c.size - 1, invalidations := c.invalidations + 1 })
  else (false, c)

/-- Drops all entries. -/
def invalidateAll (c : RuleCache) : RuleCache :=
  { c with
    shards := c.shards.map fun _ => .empty
    size := 0
    invalidations := c.invalidations + c.entries.length }

/-- Puts in a rule that is not there, as the latest accessed. -/
def insert (c : RuleCache) (compiled : CompiledRule) : RuleCache :=
  let c := if c.size ≥ c.capacity then c.evict else c
  let stamp := c.clock + 1
  { c.put compiled.id ⟨compiled, stamp⟩ with size := c.size + 1, clock := stamp }

/-- Compiles a rule that is not in the cache and keeps the result. -/
def compileMissing (c : RuleCache) (r : Rule) (schema : Schema) : Except CompileError Lookup × RuleCache :=
  let c := { c with misses := c.misses + 1 }
  match r.compile schema with
  | .ok compiled => (.ok (.compiled compiled), c.insert compiled)
  | .error e => (.error e, c)

/--
The compiled form of a rule. An inactive rule loses its entry; an entry of another revision is dropped
and compiled anew; failures are not kept.
-/
def lookup (c : RuleCache) (r : Rule) (schema : Schema) : Except CompileError Lookup × RuleCache :=
  if !r.active then (.ok .inactive, (c.invalidate r.id).2)
  else
    match c.get? r.id with
    | some e =>
      if e.compiled.isOf r then
        let stamp := c.clock + 1
        (.ok (.compiled e.compiled),
          { c.put r.id { e with stamp := stamp } with clock := stamp, hits := c.hits + 1 })
      else (c.invalidate r.id).2.compileMissing r schema
    | none => c.compileMissing r schema

/-- Drops every entry whose revision is not the stored one, and counts them. -/
def refresh (c : RuleCache) (store : Repository) : Nat × RuleCache :=
  c.entries.foldl (fun (n, c) e =>
    if store.revision? e.1 = some e.2.compiled.revision then (n, c)
    else
      let (dropped, c) := c.invalidate e.1
      (if dropped then n + 1 else n, c)) (0, c)

def stats (c : RuleCache) : CacheStats := ⟨c.hits, c.misses, c.evictions, c.invalidations, c.size⟩

end RuleCache

end RecordGate
