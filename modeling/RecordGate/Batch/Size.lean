/-!
# Batch sizes

Rows are judged in batches. The size of the batches depends on the size of the file alone, so a file is
always split in the same way.

Main definitions: `batchSize`.
-/

namespace RecordGate

/-- One mebibyte. -/
def mebibyte : Nat := 1024 * 1024

/-- The number of rows that suits a file of the given number of bytes. -/
def suitedBatchSize (fileSize : Nat) : Nat :=
  if fileSize < mebibyte then 50
  else if fileSize < 10 * mebibyte then 100
  else if fileSize < 100 * mebibyte then 200
  else 500

/-- The number of rows in a batch: what suits the file, within the bounds, and at least 1. -/
def batchSize (fileSize least most : Nat) : Nat :=
  let least := max least 1
  max least (min (suitedBatchSize fileSize) (max most least))

end RecordGate
