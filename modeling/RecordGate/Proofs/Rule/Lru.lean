import RecordGate.Rule.Cache

/-!
# A bounded list in the order of last access

What a cache of compiled rules is meant to be: one list, each rule once, the rule accessed longest ago
at the front, and never more rules than the capacity. There are no shards, no stamps and no counted size.

Main definitions: `Lru` with its operations, `CacheOp`, and `runOps` for a run of operations on a cache
of either kind.
-/

namespace RecordGate

/-- A bounded list of compiled rules, the one accessed longest ago first, with its counters. -/
structure Lru where
  capacity : Nat
  rules : List CompiledRule
  hits : Nat
  misses : Nat
  evictions : Nat
  invalidations : Nat

namespace Lru

/-- An empty list. The capacity is at least 1. -/
def new (config : CacheConfig) : Lru := ⟨max config.capacity 1, [], 0, 0, 0, 0⟩

def find? (l : Lru) (id : String) : Option CompiledRule := l.rules.find? (·.id == id)

/-- The rules of the other ids. -/
def others (l : Lru) (id : String) : List CompiledRule := l.rules.filter (·.id != id)

/-- Drops the rule of an id. -/
def invalidate (l : Lru) (id : String) : Bool × Lru :=
  match l.find? id with
  | some _ => (true, { l with rules := l.others id, invalidations := l.invalidations + 1 })
  | none => (false, l)

def invalidateAll (l : Lru) : Lru :=
  { l with rules := [], invalidations := l.invalidations + l.rules.length }

/-- Drops the rule accessed longest ago if the list is full. -/
def makeRoom (l : Lru) : Lru :=
  if l.capacity ≤ l.rules.length then { l with rules := l.rules.tail, evictions := l.evictions + 1 } else l

/-- Puts a rule in as the latest accessed. -/
def append (l : Lru) (c : CompiledRule) : Lru := { l with rules := l.rules ++ [c] }

/-- Compiles a rule that is not in the list; only a success is kept. -/
def compileMissing (l : Lru) (r : Rule) (schema : Schema) : Except CompileError Lookup × Lru :=
  let l := { l with misses := l.misses + 1 }
  match r.compile schema with
  | .ok c => (.ok (.compiled c), l.makeRoom.append c)
  | .error e => (.error e, l)

/-- A hit moves the rule to the end; a stale rule and the rule of an inactive one are dropped. -/
def lookup (l : Lru) (r : Rule) (schema : Schema) : Except CompileError Lookup × Lru :=
  if !r.active then (.ok .inactive, (l.invalidate r.id).2)
  else
    match l.find? r.id with
    | some c =>
      if c.isOf r then (.ok (.compiled c), { l with rules := l.others r.id ++ [c], hits := l.hits + 1 })
      else (l.invalidate r.id).2.compileMissing r schema
    | none => l.compileMissing r schema

/-- Whether the revision of a compiled rule is the stored one. -/
def isCurrent (store : Repository) (c : CompiledRule) : Bool := store.revision? c.id = some c.revision

/-- Drops the rules whose revision is not the stored one; the others keep their order. -/
def refresh (l : Lru) (store : Repository) : Nat × Lru :=
  let stale := l.rules.countP (!isCurrent store ·)
  (stale, { l with rules := l.rules.filter (isCurrent store), invalidations := l.invalidations + stale })

def stats (l : Lru) : CacheStats := ⟨l.hits, l.misses, l.evictions, l.invalidations, l.rules.length⟩

end Lru

/-! ## Runs -/

/-- One use of a cache. -/
inductive CacheOp where
  | lookup (r : Rule) (schema : Schema)
  | invalidate (id : String)
  | invalidateAll
  | refresh (store : Repository)

/-- What one use of a cache answers. -/
inductive CacheAnswer where
  | found (answer : Except CompileError Lookup)
  | dropped (present : Bool)
  | cleared
  | refreshed (dropped : Nat)

def RuleCache.step (c : RuleCache) : CacheOp → CacheAnswer × RuleCache
  | .lookup r schema => (.found (c.lookup r schema).1, (c.lookup r schema).2)
  | .invalidate key => (.dropped (c.invalidate key).1, (c.invalidate key).2)
  | .invalidateAll => (.cleared, c.invalidateAll)
  | .refresh store => (.refreshed (c.refresh store).1, (c.refresh store).2)

def Lru.step (l : Lru) : CacheOp → CacheAnswer × Lru
  | .lookup r schema => (.found (l.lookup r schema).1, (l.lookup r schema).2)
  | .invalidate key => (.dropped (l.invalidate key).1, (l.invalidate key).2)
  | .invalidateAll => (.cleared, l.invalidateAll)
  | .refresh store => (.refreshed (l.refresh store).1, (l.refresh store).2)

/-- Uses a cache again and again: the answers in order, and the cache that is left. -/
def runOps {σ : Type} (step : σ → CacheOp → CacheAnswer × σ) (s : σ) : List CacheOp → List CacheAnswer × σ
  | [] => ([], s)
  | op :: ops =>
    let next := step s op
    let rest := runOps step next.2 ops
    (next.1 :: rest.1, rest.2)

/-! ## The capacity -/

namespace Lru

variable (l : Lru)

@[simp] theorem capacity_invalidate (id : String) : (l.invalidate id).2.capacity = l.capacity := by
  unfold invalidate
  split <;> rfl

@[simp] theorem capacity_makeRoom : l.makeRoom.capacity = l.capacity := by
  unfold makeRoom
  split <;> rfl

@[simp] theorem capacity_append (c : CompiledRule) : (l.append c).capacity = l.capacity := rfl

@[simp] theorem capacity_compileMissing (r : Rule) (schema : Schema) :
    (l.compileMissing r schema).2.capacity = l.capacity := by
  unfold compileMissing
  split <;> simp

@[simp] theorem capacity_lookup (r : Rule) (schema : Schema) : (l.lookup r schema).2.capacity = l.capacity := by
  unfold lookup
  split
  · exact l.capacity_invalidate r.id
  · split
    · split <;> simp
    · simp

/-- No operation changes the capacity. -/
theorem capacity_step (op : CacheOp) : (l.step op).2.capacity = l.capacity := by
  cases op with
  | lookup r schema => exact l.capacity_lookup r schema
  | invalidate key => exact l.capacity_invalidate key
  | invalidateAll => rfl
  | refresh store => rfl

theorem capacity_run (ops : List CacheOp) : (runOps step l ops).2.capacity = l.capacity := by
  induction ops generalizing l with
  | nil => rfl
  | cons op ops ih => exact (ih _).trans (l.capacity_step op)

end Lru

end RecordGate
