import RecordGate.Batch.Basic
import RecordGate.Response.Tally

/-!
# Loading a file

While a file is being judged, the valid rows of each batch are staged in the warehouse under one load,
until a call fails. The load is then settled: it is committed when the file was read to its end and
everything was staged, and aborted when it was not committed.

Main definitions: `Loading.take`, `Loading.settle`.
-/

namespace RecordGate

/-- A file being loaded: what is tallied, what the warehouse refused, and the state around it. -/
structure Loading (σ : Type) where
  tally : Tally
  /-- The calls that failed, in order. -/
  errors : List LoadError
  around : σ

namespace Loading

variable {σ : Type}

/-- Stages the valid rows of a batch, unless there are none or a call has failed before. -/
def stage (loader : Loader σ) (load : LoadId) (table : String) (rows : List TableRow) (l : Loading σ) :
    Loading σ :=
  if rows.isEmpty || !l.errors.isEmpty then l
  else
    match loader.stage load table rows l.around with
    | (.ok _, around) => { l with around := around }
    | (.error e, around) => { l with around := around, errors := l.errors ++ [e] }

/-- Takes in a batch. -/
def take (loader : Loader σ) (load : LoadId) (table : String) (b : JudgedBatch) (l : Loading σ) : Loading σ :=
  let l := l.stage loader load table b.validRows
  { l with tally := l.tally.push b.summary b.outcomes }

/-- Aborts the load. -/
def abort (loader : Loader σ) (load : LoadId) (table : String) (l : Loading σ) : Loading σ :=
  match loader.abort load table l.around with
  | (.ok _, around) => { l with around := around }
  | (.error e, around) => { l with around := around, errors := l.errors ++ [e] }

/-- Settles the load of a file that ended in the given way, and counts the rows that are loaded. -/
def settle (loader : Loader σ) (load : LoadId) (table : String) (status : FileStatus) (l : Loading σ) :
    Nat × Loading σ :=
  if status == .completed && l.errors.isEmpty then
    match loader.commit load table l.around with
    | (.ok count, around) => (count, { l with around := around })
    | (.error e, around) => (0, { l with around := around, errors := [e] }.abort loader load table)
  else (0, l.abort loader load table)

end Loading

end RecordGate
