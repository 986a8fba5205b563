import RecordGate.Batch.Judge

/-!
# Batches

The items of a file are taken in batches of one size. A batch ends early where the file ends or cannot
be read on. Before each batch it is asked whether to go on; after a batch that ended early nothing is
asked any more.

Main definitions: `Batches`, `Batches.next`, `Batches.drive`.
-/

namespace RecordGate

/-- What is left of a file. -/
inductive Remaining where
  | items (items : List RowItem)
  | finished
  | failed (e : FileError)
deriving DecidableEq

namespace Remaining

/-- The number of items that are left. -/
def size : Remaining → Nat
  | items is => is.length
  | _ => 0

/-- Takes up to `n` rows off the items of a file. -/
def take : (n : Nat) → List RowItem → List PendingRow × Remaining
  | 0, is => ([], items is)
  | _ + 1, [] => ([], finished)
  | _ + 1, .failed e :: _ => ([], failed e)
  | n + 1, .row r :: rest =>
    let (rows, left) := take n rest
    (.ok r :: rows, left)
  | n + 1, .unreadable e :: rest =>
    let (rows, left) := take n rest
    (.error e :: rows, left)

/-- Every row that is taken is an item less. -/
theorem length_add_size_take_le (n : Nat) (is : List RowItem) :
    (take n is).1.length + (take n is).2.size ≤ is.length := by
  induction n generalizing is with
  | zero => simp [take, size]
  | succ n ih =>
    match is with
    | [] => simp [take, size]
    | .failed e :: rest => simp [take, size]
    | .row r :: rest =>
      have := ih rest
      simp only [take, List.length_cons]
      omega
    | .unreadable e :: rest =>
      have := ih rest
      simp only [take, List.length_cons]
      omega

end Remaining

/-- A judged batch. -/
structure JudgedBatch where
  summary : BatchSummary
  outcomes : List RowOutcome
  /-- The values of the valid rows, in order. -/
  validRows : List TableRow
deriving DecidableEq

/-- The batch of the given number, from its judged rows. -/
def JudgedBatch.of (index : Nat) (rows : List Judged) : JudgedBatch :=
  let outcomes := rows.map (·.outcome)
  ⟨.of index outcomes, outcomes, rows.filterMap (·.values)⟩

/-- A file that is being judged in batches. -/
structure Batches where
  judge : Judge
  size : Nat
  file : FileState
  left : Remaining
  /-- The number of the next batch. -/
  index : Nat
  cancelled : Bool

namespace Batches

/-- A file before its first batch. -/
def start (judge : Judge) (size : Nat) (asOf : Date) (items : List RowItem) : Batches :=
  ⟨judge, size, .start asOf, .items items, 0, false⟩

/-- Why the file could not be read on, if that is how it ended. -/
def fileError? (b : Batches) : Option FileError :=
  match b.left with
  | .failed e => some e
  | _ => none

/-- Whether something may be left to do. -/
def isOpen (b : Batches) : Bool :=
  match b.left with
  | .items _ => !b.cancelled
  | _ => false

/-- Judges the next batch, if there is one. -/
def next (b : Batches) : Option JudgedBatch × Batches :=
  match b.left with
  | .items items =>
    let (rows, left) := Remaining.take b.size items
    if rows.isEmpty then (none, { b with left := left })
    else
      let (judged, file) := b.judge.batch b.file rows
      (some (.of b.index judged), { b with file := file, left := left, index := b.index + 1 })
  | _ => (none, b)

/-- A batch leaves less of the file. -/
theorem size_left_next_lt {b later : Batches} {batch : JudgedBatch} (h : b.next = (some batch, later)) :
    later.left.size < b.left.size := by
  unfold next at h
  split at h
  · next items eq =>
    have bound := Remaining.length_add_size_take_le b.size items
    cases taken : Remaining.take b.size items with
    | mk rows left =>
      rw [taken] at bound
      simp only [taken] at h
      split at h
      · cases h
      · next nonempty =>
        cases h
        have : 0 < rows.length := by
          cases rows with
          | nil => simp at nonempty
          | cons r rest => simp
        simp only [eq, Remaining.size] at bound ⊢
        omega
  · cases h

/--
Judges batch after batch. Before each it asks `poll` whether to stop; each is handed to `take` together
with a state, which both may change.
-/
def drive {σ : Type} (poll : σ → Bool × σ) (take : JudgedBatch → σ → σ) (b : Batches) (s : σ) : Batches × σ :=
  if b.isOpen then
    match poll s with
    | (true, s) => ({ b with cancelled := true }, s)
    | (false, s) =>
      match _h : b.next with
      | (some batch, later) => drive poll take later (take batch s)
      | (none, later) => (later, s)
  else (b, s)
termination_by b.left.size
decreasing_by exact size_left_next_lt _h

end Batches

end RecordGate
