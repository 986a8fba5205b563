import RecordGate.Rule.Cache

/-!
# Settings

The settings of the gate: the bounds of the batches, the number of workers, the size of the cache of
rules, the number of examples in a report and the processing date.

Main definitions: `Settings`, `Settings.check`.
-/

namespace RecordGate

/-- The settings. Without a processing date the current day is taken. -/
structure Settings where
  minBatch : Nat
  maxBatch : Nat
  workers : Nat
  cache : CacheConfig
  maxExamples : Nat
  asOf : Option Date
deriving DecidableEq

namespace Settings

/-- The settings where nothing is said. -/
def standard : Settings := ⟨50, 500, 4, .standard, 20, none⟩

/-- What can be wrong with settings. -/
inductive Fault where
  | noBatch
  | invertedBounds (least most : Nat)
  | noWorker
  | noCache
deriving DecidableEq

def Fault.message : Fault → String
  | .noBatch => "min_batch_size must be at least 1"
  | .invertedBounds least most => s!"min_batch_size {least} exceeds max_batch_size {most}"
  | .noWorker => "workers must be at least 1"
  | .noCache => "cache capacity and shards must be at least 1"

/-- The first thing that is wrong, if any. -/
def check (s : Settings) : Except Fault Unit :=
  if s.minBatch = 0 then .error .noBatch
  else if s.minBatch > s.maxBatch then .error (.invertedBounds s.minBatch s.maxBatch)
  else if s.workers = 0 then .error .noWorker
  else if s.cache.capacity = 0 ∨ s.cache.shards = 0 then .error .noCache
  else .ok ()

/-- The date that counts as today. -/
def processingDate (s : Settings) (today : Date) : Date := s.asOf.getD today

end Settings

end RecordGate
