import RecordGate.Batch.Basic
import RecordGate.Batch.Size
import RecordGate.Proofs.Batch.Judging

/-!
# Driving batches

What is left of a file is its pending rows and the failure that ends it, if there is one
(`Remaining.pending`, `Remaining.failure?`). Taking a batch takes the first of the pending rows and leaves
the failure alone, so wherever the file is cut, the rows that have been judged and the rows that are
pending are the rows of the file (`Batches.HasJudged.next`).

`Batches.drive_invariant` is the rule for a whole run, whoever asks to stop and whatever is done with the
batches: what each step keeps holds at the end. At the end nothing is open (`Batches.drive_closed`).
-/

namespace RecordGate

theorem batchSize_pos (fileSize least most : Nat) : 0 < batchSize fileSize least most :=
  Nat.lt_of_lt_of_le (Nat.lt_of_lt_of_le Nat.zero_lt_one (Nat.le_max_right least 1)) (Nat.le_max_left _ _)

/-! ## What is left of a file -/

namespace Remaining

/-- The rows of a file that come before a failure. -/
def rowsOf : List RowItem → List PendingRow
  | [] => []
  | .failed _ :: _ => []
  | .row r :: rest => .ok r :: rowsOf rest
  | .unreadable e :: rest => .error e :: rowsOf rest

/-- The first failure of a file. -/
def failureOf? : List RowItem → Option FileError
  | [] => none
  | .failed e :: _ => some e
  | .row _ :: rest => failureOf? rest
  | .unreadable _ :: rest => failureOf? rest

/-- The rows that are left. -/
def pending : Remaining → List PendingRow
  | items is => rowsOf is
  | finished => []
  | failed _ => []

/-- How what is left ends. -/
def failure? : Remaining → Option FileError
  | items is => failureOf? is
  | finished => none
  | failed e => some e

/-- Whether something may be left to take. -/
def isOpen : Remaining → Bool
  | items _ => true
  | _ => false

theorem pending_of_closed {left : Remaining} (h : left.isOpen = false) : left.pending = [] := by
  cases left with
  | items => cases h
  | finished | failed => rfl

/-- The first rows are taken and the others are left, with the same end. -/
theorem take_eq (n : Nat) (is : List RowItem) :
    (take n is).1 = (rowsOf is).take n ∧ (take n is).2.pending = (rowsOf is).drop n ∧
      (take n is).2.failure? = failureOf? is := by
  induction n generalizing is with
  | zero => exact ⟨rfl, rfl, rfl⟩
  | succ n ih =>
    match is with
    | [] => exact ⟨rfl, rfl, rfl⟩
    | .failed e :: rest => exact ⟨rfl, rfl, rfl⟩
    | .row r :: rest => exact ⟨congrArg _ (ih rest).1, (ih rest).2⟩
    | .unreadable e :: rest => exact ⟨congrArg _ (ih rest).1, (ih rest).2⟩

/-- What is taken and what is left are the rows that there were, and the end is the same. -/
theorem take_spec (n : Nat) (is : List RowItem) :
    (take n is).1 ++ (take n is).2.pending = rowsOf is ∧ (take n is).2.failure? = failureOf? is := by
  obtain ⟨taken, left, failure⟩ := take_eq n is
  exact ⟨by rw [taken, left, List.take_append_drop], failure⟩

/-- Where no row can be taken, nothing is left open. -/
theorem closed_of_take_nil {n : Nat} (positive : 0 < n) {is : List RowItem} (h : (take n is).1 = []) :
    (take n is).2.isOpen = false := by
  obtain ⟨n, rfl⟩ := Nat.exists_eq_add_one.mpr positive
  match is with
  | [] => rfl
  | .failed e :: rest => rfl
  | .row r :: rest => cases h
  | .unreadable e :: rest => cases h

end Remaining

/-! ## A step -/

namespace Batches

variable {σ : Type} {b later : Batches} {batch : JudgedBatch}

/-- A batch is some of the rows that are left, judged by the file as it is. -/
theorem next_some (h : b.next = (some batch, later)) : ∃ items, b.left = .items items ∧
    batch = .of b.index (b.judge.batch b.file (Remaining.take b.size items).1).1 ∧
    later = { b with
      file := (b.judge.batch b.file (Remaining.take b.size items).1).2
      left := (Remaining.take b.size items).2
      index := b.index + 1 } := by
  unfold next at h
  split at h
  · next items left =>
    simp only at h
    split at h
    · cases h
    · cases h
      exact ⟨items, left, rfl, rfl⟩
  · cases h

/-- Where there is no batch, no row is left. -/
theorem next_none (h : b.next = (none, later)) :
    (b.left.isOpen = false ∧ later = b) ∨ ∃ items, b.left = .items items ∧ (Remaining.take b.size items).1 = [] ∧
      later = { b with left := (Remaining.take b.size items).2 } := by
  unfold next at h
  split at h
  · next items left =>
    simp only at h
    split at h
    · next empty =>
      cases h
      exact .inr ⟨items, left, List.isEmpty_iff.mp empty, rfl⟩
    · cases h
  · next closed =>
    cases h
    refine .inl ⟨?_, rfl⟩
    cases left : b.left with
    | items is => exact absurd left (closed is)
    | finished | failed => rfl

theorem isOpen_eq (b : Batches) : b.isOpen = (b.left.isOpen && !b.cancelled) := by
  unfold isOpen
  cases b.left <;> rfl

/-- A file is at its end when nothing is left and nobody asked to stop. -/
theorem closed_of_not_isOpen (h : b.isOpen = false) (going : b.cancelled = false) : b.left.isOpen = false := by
  rw [isOpen_eq, going] at h
  simpa using h

/-- What a file that is not open ended with is its error. -/
theorem fileError?_of_closed (h : b.left.isOpen = false) : b.fileError? = b.left.failure? := by
  unfold fileError?
  cases left : b.left with
  | items is =>
    rw [left] at h
    cases h
  | finished | failed => rfl

/-! ## A run -/

variable {poll : σ → Bool × σ} {take : JudgedBatch → σ → σ} {s : σ}

/-- **What every step keeps holds at the end of a run.** -/
theorem drive_invariant {P : Batches → σ → Prop} (asked : ∀ b s, P b s → P b (poll s).2)
    (stopped : ∀ b s, P b s → (poll s).1 = true → P { b with cancelled := true } (poll s).2)
    (taken : ∀ b s batch later, b.next = (some batch, later) → P b s → P later (take batch s))
    (ended : ∀ b s later, b.next = (none, later) → P b s → P later s) (h : P b s) :
    P (drive poll take b s).1 (drive poll take b s).2 := by
  fun_induction drive poll take b s with
  | case1 b s _ s' stop =>
    have held := stopped b s h (by rw [stop])
    rw [stop] at held
    exact held
  | case2 b s _ s' go batch later next ih =>
    have held := asked b s h
    rw [go] at held
    exact ih (taken b s' batch later next held)
  | case3 b s _ s' go later next =>
    have held := asked b s h
    rw [go] at held
    exact ended b s' later next held
  | case4 b s _ => exact h

/-- When nobody asks to stop, the run is not cancelled. -/
theorem drive_not_cancelled (never : ∀ s, (poll s).1 = false) (going : b.cancelled = false) :
    (drive poll take b s).1.cancelled = false := by
  refine drive_invariant (P := fun b _ => b.cancelled = false) (fun _ _ h => h) ?_ ?_ ?_ going
  · intro b s _ stop
    rw [never s] at stop
    cases stop
  · intro b s batch later next going
    obtain ⟨items, -, -, rfl⟩ := next_some next
    exact going
  · intro b s later next going
    rcases next_none next with ⟨-, rfl⟩ | ⟨items, -, -, rfl⟩
    · exact going
    · exact going

/-- At the end of a run nothing is open. -/
theorem drive_closed (positive : 0 < b.size) : (drive poll take b s).1.isOpen = false := by
  fun_induction drive poll take b s with
  | case1 b s _ s' stop =>
    rw [isOpen_eq]
    exact Bool.and_false _
  | case2 b s _ s' go batch later next ih =>
    obtain ⟨items, -, -, rfl⟩ := next_some next
    exact ih positive
  | case3 b s _ s' go later next =>
    rw [isOpen_eq]
    rcases next_none next with ⟨closed, rfl⟩ | ⟨items, -, none, rfl⟩
    · rw [closed]
      rfl
    · rw [Remaining.closed_of_take_nil positive none]
      rfl
  | case4 b s closed => simpa using closed

end Batches

/-! ## The rows that have been judged -/

/-- The rows of a file that have been judged so far, as if one after the other, and those that are left. -/
structure Batches.HasJudged (g : Judge) (asOf : Date) (items : List RowItem) (done : List PendingRow) (b : Batches) :
    Prop where
  judge : b.judge = g
  rows : done ++ b.left.pending = Remaining.rowsOf items
  failure : b.left.failure? = Remaining.failureOf? items
  file : (g.inOrder (.start asOf) done).2 = b.file

namespace Batches.HasJudged

variable {g : Judge} {asOf : Date} {items : List RowItem} {done : List PendingRow} {b later : Batches}
  {batch : JudgedBatch}

theorem start (g : Judge) (size : Nat) (asOf : Date) (items : List RowItem) :
    (Batches.start g size asOf items).HasJudged g asOf items [] := ⟨rfl, rfl, rfl, rfl⟩

/-- A batch adds the rows that come next, and what it finds is what they give in order. -/
theorem next (candid : g.plan.Candid) (h : b.HasJudged g asOf items done) (next : b.next = (some batch, later)) :
    ∃ rows, later.HasJudged g asOf items (done ++ rows) ∧
      ∃ judged, batch = .of b.index judged ∧
        (g.inOrder (.start asOf) (done ++ rows)).1 = (g.inOrder (.start asOf) done).1 ++ judged := by
  obtain ⟨is, left, rfl, rfl⟩ := next_some next
  obtain ⟨taken, failure⟩ := Remaining.take_spec b.size is
  rw [h.judge, Judge.batch_eq_inOrder candid]
  refine ⟨(Remaining.take b.size is).1, ⟨rfl, ?_, ?_, ?_⟩, _, rfl, ?_⟩
  · rw [List.append_assoc, taken, ← h.rows, left]
    rfl
  · rw [failure, ← h.failure, left]
    rfl
  · rw [Judge.inOrder_append, h.file]
  · rw [Judge.inOrder_append, h.file]

/-- Where there is no batch, the rows that have been judged stay the same. -/
theorem ended (h : b.HasJudged g asOf items done) (next : b.next = (none, later)) :
    later.HasJudged g asOf items done := by
  rcases next_none next with ⟨-, rfl⟩ | ⟨is, left, none, rfl⟩
  · exact h
  · obtain ⟨taken, failure⟩ := Remaining.take_spec b.size is
    rw [none, List.nil_append] at taken
    refine ⟨h.judge, ?_, ?_, h.file⟩
    · change done ++ (Remaining.take b.size is).2.pending = _
      rw [taken, ← h.rows, left]
      rfl
    · rw [← h.failure, left]
      exact failure

theorem cancel (h : b.HasJudged g asOf items done) :
    HasJudged g asOf items done { b with cancelled := true } := ⟨h.judge, h.rows, h.failure, h.file⟩

/-- When nothing is left, every row has been judged. -/
theorem all (h : b.HasJudged g asOf items done) (closed : b.left.isOpen = false) : done = Remaining.rowsOf items := by
  rw [← h.rows, Remaining.pending_of_closed closed, List.append_nil]

end Batches.HasJudged

end RecordGate
