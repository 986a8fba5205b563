import RecordGate.Schema.Json
import RecordGate.Settings.Basic

/-!
# Settings as JSON

The document form of settings, both ways. What is not given is standard; members of other names are
passed over.

Main definitions: `Settings.toJson`, `Settings.ofJson?`.
-/

namespace RecordGate.Settings

/-- The members in the order of declaration. -/
def memberNames : List String :=
  ["min_batch_size", "max_batch_size", "workers", "cache", "max_examples", "as_of"]

def toJson (s : Settings) : Json :=
  .obj ([("min_batch_size", .ofNat s.minBatch), ("max_batch_size", .ofNat s.maxBatch),
    ("workers", .ofNat s.workers), ("cache", s.cache.toJson), ("max_examples", .ofNat s.maxExamples)] ++
    Json.member? "as_of" (s.asOf.map fun d => .str (toString d)))

def ofJson? (j : Json) : Option Settings := do
  let j ← j.asObject? memberNames
  let minBatch ← j.defaulted? "min_batch_size" standard.minBatch Json.nat?
  let maxBatch ← j.defaulted? "max_batch_size" standard.maxBatch Json.nat?
  let workers ← j.defaulted? "workers" standard.workers Json.nat?
  let cache ← j.defaulted? "cache" standard.cache CacheConfig.ofJson?
  let maxExamples ← j.defaulted? "max_examples" standard.maxExamples Json.nat?
  let asOf ← j.optional? "as_of" Date.ofJson?
  return ⟨minBatch, maxBatch, workers, cache, maxExamples, asOf⟩

end RecordGate.Settings
