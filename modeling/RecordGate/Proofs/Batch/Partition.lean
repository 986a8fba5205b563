import Mathlib.Data.List.Forall2
import RecordGate.Pattern.Reader
import RecordGate.Proofs.Batch.Numbering
import RecordGate.Proofs.Batch.Runs
import RecordGate.Proofs.File.Protocol
import RecordGate.Settings.Basic

/-!
# Batches partition the rows of a file

A file that nobody stops is cut into batches of one size: the first rows, then the next, and what is left at the
end (`Judge.Batched`, which every run without a stop establishes by `Batches.Run.batched`). So its batches are
numbered from 0, only the last may be smaller, no row is lost and none comes twice, and the rows of a batch
follow on those of the batch before it (`Batches.Partition`).

Somebody who wants to stop can only end the run early: what was answered before does not depend on it, and the
batches so far are the first batches of the run that nobody stops (`Batches.Run.isPrefix`). Both together are
`Batches.drive_partition`.
-/

namespace RecordGate

/-! ## Batch sizes -/

/-- The size of a batch is within the bounds of settings that were checked. -/
theorem batchSize_bounds {settings : Settings} (valid : settings.check = .ok ()) (fileSize : Nat) :
    settings.minBatch ≤ batchSize fileSize settings.minBatch settings.maxBatch ∧
      batchSize fileSize settings.minBatch settings.maxBatch ≤ settings.maxBatch := by
  unfold Settings.check at valid
  split at valid
  · cases valid
  split at valid
  · cases valid
  simp only [batchSize]
  omega

/-! ## The numbers of rows -/

/-- Where rows that are numbered on from one are cut, the numbers go on. -/
theorem PendingRow.numbers_cut {rows : List PendingRow} {first : Nat}
    (numbers : rows.map number = List.range' first rows.length) (n : Nat) :
    (rows.take n).map number = List.range' first (rows.take n).length ∧
      (rows.drop n).map number = List.range' (first + (rows.take n).length) (rows.drop n).length := by
  have cut : List.range' first rows.length = (rows.take n).map number ++ (rows.drop n).map number := by
    rw [← List.map_append, List.take_append_drop, numbers]
  obtain ⟨k, -, taken, left⟩ := List.range'_eq_append_iff.mp cut
  have count : (rows.take n).length = k := by
    rw [← List.length_map number, taken, List.length_range']
  have others : (rows.drop n).length = rows.length - k := by
    rw [← List.length_map number, left, List.length_range']
  rw [count, others]
  exact ⟨taken, by rw [left, Nat.mul_one]⟩

/--
What may be relied on of the items of a file: rows are numbered from 1 without a gap, and a failure to read on
tells how many there were and is the end.
-/
structure RowItem.InOrder (items : List RowItem) : Prop where
  row : ∀ k r, items[k]? = some (.row r) → r.index = k + 1
  unreadable : ∀ k e, items[k]? = some (.unreadable e) → e.row = k + 1
  failed : ∀ k e, items[k]? = some (.failed e) → e.rowsRead = k ∧ items.length = k + 1

namespace RowItem

theorem inOrder_delivery (rows : List (Except String (Record Cell))) (failure : Option String) :
    InOrder (delivery rows failure) where
  row k r given := by
    rcases of_getElem?_delivery given with ⟨cells, item⟩ | ⟨-, message, -, item⟩
    · cases cells <;> cases item
      rfl
    · cases item
  unreadable k e given := by
    rcases of_getElem?_delivery given with ⟨cells, item⟩ | ⟨-, message, -, item⟩
    · cases cells <;> cases item
      rfl
    · cases item
  failed k e given := by
    rcases of_getElem?_delivery given with ⟨cells, item⟩ | ⟨rfl, message, rfl, item⟩
    · cases cells <;> cases item
    · cases item
      exact ⟨rfl, length_delivery rows _⟩

/-- The items of a file in any format are in order. -/
theorem inOrder_rows (format : Format) (input : Bytes) : InOrder (format.rows input) := by
  obtain ⟨rows, failure, delivered⟩ := format.rows_eq_delivery input
  exact delivered ▸ inOrder_delivery rows failure

/-- Rows up to a failure are numbered as they stand among the items. -/
theorem numbers_rowsOf {before : Nat} {items : List RowItem}
    (row : ∀ k r, items[k]? = some (.row r) → r.index = before + k)
    (unreadable : ∀ k e, items[k]? = some (.unreadable e) → e.row = before + k) :
    (Remaining.rowsOf items).map PendingRow.number = List.range' before (Remaining.rowsOf items).length := by
  induction items generalizing before with
  | nil => rfl
  | cons item rest ih =>
    have later : (Remaining.rowsOf rest).map PendingRow.number =
        List.range' (before + 1) (Remaining.rowsOf rest).length := by
      refine ih (fun k r given => ?_) (fun k e given => ?_)
      · rw [row (k + 1) r given, Nat.add_right_comm, Nat.add_assoc]
      · rw [unreadable (k + 1) e given, Nat.add_right_comm, Nat.add_assoc]
    cases item with
    | failed e => rfl
    | row r =>
      have first : r.index = before := row 0 r rfl
      simp only [Remaining.rowsOf, List.map_cons, later, List.length_cons, List.range'_succ, PendingRow.number, first]
    | unreadable e =>
      have first : e.row = before := unreadable 0 e rfl
      simp only [Remaining.rowsOf, List.map_cons, later, List.length_cons, List.range'_succ, PendingRow.number, first]

/-- The rows of a file in order are numbered from 1. -/
theorem InOrder.numbers {items : List RowItem} (h : InOrder items) :
    (Remaining.rowsOf items).map PendingRow.number = List.range' 1 (Remaining.rowsOf items).length :=
  numbers_rowsOf (fun k r given => (h.row k r given).trans (Nat.add_comm k 1))
    (fun k e given => (h.unreadable k e given).trans (Nat.add_comm k 1))

end RowItem

/-- The summary of rows that are numbered on from one tells the first and the last of them. -/
theorem BatchSummary.rows_of {outcomes : List RowOutcome} {first : Nat} (index : Nat) (some : 0 < outcomes.length)
    (numbers : outcomes.map (·.row) = List.range' first outcomes.length) :
    (of index outcomes).firstRow = first ∧ (of index outcomes).lastRow + 1 = first + outcomes.length := by
  have least : (List.range' first outcomes.length).min? = Option.some first := by
    refine List.min?_eq_some_iff.mpr ⟨List.mem_range'_1.mpr (by omega), fun n hn => ?_⟩
    exact (List.mem_range'_1.mp hn).1
  have greatest : (List.range' first outcomes.length).max? = Option.some (first + outcomes.length - 1) := by
    refine List.max?_eq_some_iff.mpr ⟨List.mem_range'_1.mpr (by omega), fun n hn => ?_⟩
    have := (List.mem_range'_1.mp hn).2
    omega
  simp only [of, numbers, least, greatest, Option.getD_some, true_and]
  omega

/-! ## Outcomes of rows -/

namespace Judge

variable {g : Judge} {rows : List PendingRow}

/-- These are outcomes of these rows, each judged by some file. -/
def Outcomes (g : Judge) : List PendingRow → List RowOutcome → Prop :=
  List.Forall₂ fun r o => ∃ file, (g.row file r).1.outcome = o

/-- Outcomes have the numbers of their rows. -/
theorem Outcomes.numbers {outcomes : List RowOutcome} (h : g.Outcomes rows outcomes) :
    outcomes.map (·.row) = rows.map PendingRow.number := by
  induction h with
  | nil => rfl
  | cons judged _ ih =>
    obtain ⟨file, rfl⟩ := judged
    rw [List.map_cons, List.map_cons, ih, g.row_outcome]

theorem outcomes_inOrder (g : Judge) (file : FileState) (rows : List PendingRow) :
    g.Outcomes rows ((g.inOrder file rows).1.map (·.outcome)) := by
  induction rows generalizing file with
  | nil => exact .nil
  | cons r rest ih => exact .cons ⟨file, rfl⟩ (ih _)

theorem outcomes_sideBySide (g : Judge) (file : FileState) (rows : List PendingRow) :
    g.Outcomes rows ((g.sideBySide file rows).map (·.outcome)) := by
  induction rows with
  | nil => exact .nil
  | cons r rest ih => exact .cons ⟨file, rfl⟩ ih

/-- A batch has the outcomes of its rows. -/
theorem outcomes_batch (g : Judge) (file : FileState) (rows : List PendingRow) :
    g.Outcomes rows ((g.batch file rows).1.map (·.outcome)) := by
  unfold batch
  split
  · exact outcomes_sideBySide g file rows
  · exact outcomes_inOrder g file rows

theorem batch_nil (g : Judge) (file : FileState) : g.batch file [] = ([], file) := by
  unfold batch
  split <;> rfl

/-- A batch can be cut anywhere. -/
theorem batch_append (g : Judge) (file : FileState) (rows more : List PendingRow) :
    g.batch file (rows ++ more) = ((g.batch file rows).1 ++ (g.batch (g.batch file rows).2 more).1,
      (g.batch (g.batch file rows).2 more).2) := by
  unfold batch
  split
  · simp only [sideBySide, List.map_append]
  · exact inOrder_append rows more

end Judge

/-! ## Rows in batches of one size -/

/-- The batches, numbered on from one, in which rows are judged when nobody stops. -/
inductive Judge.Batched (g : Judge) (size : Nat) : FileState → Nat → List PendingRow → List JudgedBatch → Prop
  | nil {file : FileState} {index : Nat} : Batched g size file index [] []
  /-- The first rows are a batch, and the others are judged as it leaves the file. -/
  | cons {file : FileState} {index : Nat} {rows : List PendingRow} {batches : List JudgedBatch} : rows ≠ [] →
      Batched g size (g.batch file (rows.take size)).2 (index + 1) (rows.drop size) batches →
      Batched g size file index rows (.of index (g.batch file (rows.take size)).1 :: batches)

namespace Batches

/-- The rows of each batch follow on those of the batch before it, and the first begins with the given row. -/
def Joined : (first : Nat) → List JudgedBatch → Prop
  | _, [] => True
  | first, batch :: rest =>
    batch.summary.firstRow = first ∧ batch.summary.lastRow + 1 = first + batch.outcomes.length ∧
      Joined (batch.summary.lastRow + 1) rest

/-- Batches of one size that partition rows. -/
structure Partition (g : Judge) (size : Nat) (rows : List PendingRow) (batches : List JudgedBatch) : Prop where
  indexes : batches.map (·.summary.index) = List.range batches.length
  /-- Every batch but the last is full. -/
  full : ∀ batch ∈ batches.dropLast, batch.outcomes.length = size
  bounded : ∀ batch ∈ batches, 0 < batch.outcomes.length ∧ batch.outcomes.length ≤ size
  /-- Each row has one outcome, which is what judging that row gives. -/
  outcomes : g.Outcomes rows (batches.flatMap (·.outcomes))
  numbers : (batches.flatMap (·.outcomes)).map (·.row) = List.range' 1 rows.length
  joined : Joined 1 batches

end Batches

namespace Judge.Batched

variable {g : Judge} {size index : Nat} {file : FileState} {rows : List PendingRow} {batches : List JudgedBatch}

theorem indexes (h : g.Batched size file index rows batches) :
    batches.map (·.summary.index) = List.range' index batches.length := by
  induction h with
  | nil => rfl
  | cons _ _ ih => exact congrArg _ ih

/-- Where there are batches, there are rows. -/
theorem rows_ne_nil (h : g.Batched size file index rows batches) (some : batches ≠ []) : rows ≠ [] := by
  cases h with
  | nil => exact absurd rfl some
  | cons nonempty _ => exact nonempty

theorem full (h : g.Batched size file index rows batches) :
    ∀ batch ∈ batches.dropLast, batch.outcomes.length = size := by
  induction h with
  | nil => exact List.forall_mem_nil _
  | @cons file index rows batches _ later ih =>
    by_cases last : batches = []
    · subst last
      exact List.forall_mem_nil _
    · rw [List.dropLast_cons_of_ne_nil last]
      refine List.forall_mem_cons.mpr ⟨?_, ih⟩
      have more : size < rows.length := List.length_lt_of_drop_ne_nil (later.rows_ne_nil last)
      have count := (outcomes_batch g file (rows.take size)).length_eq
      rw [List.length_take, Nat.min_eq_left (Nat.le_of_lt more)] at count
      exact count.symm

theorem bounded (positive : 0 < size) (h : g.Batched size file index rows batches) :
    ∀ batch ∈ batches, 0 < batch.outcomes.length ∧ batch.outcomes.length ≤ size := by
  induction h with
  | nil => exact List.forall_mem_nil _
  | @cons file index rows batches nonempty later ih =>
    refine List.forall_mem_cons.mpr ⟨?_, ih⟩
    have count := (outcomes_batch g file (rows.take size)).length_eq
    have some : 0 < rows.length := List.length_pos_iff.mpr nonempty
    rw [List.length_take] at count
    change 0 < ((g.batch file (rows.take size)).1.map (·.outcome)).length ∧
      ((g.batch file (rows.take size)).1.map (·.outcome)).length ≤ size
    omega

/-- The outcomes of batches of one size are those of one batch. -/
theorem outcomes_eq (h : g.Batched size file index rows batches) :
    batches.flatMap (·.outcomes) = (g.batch file rows).1.map (·.outcome) := by
  induction h with
  | nil => rw [batch_nil]; rfl
  | @cons file index rows batches _ _ ih =>
    rw [List.flatMap_cons, ih]
    conv_rhs => rw [← List.take_append_drop size rows, batch_append, List.map_append]
    rfl

theorem outcomes (h : g.Batched size file index rows batches) : g.Outcomes rows (batches.flatMap (·.outcomes)) :=
  h.outcomes_eq ▸ outcomes_batch g file rows

theorem joined {first : Nat} (positive : 0 < size) (h : g.Batched size file index rows batches)
    (numbers : rows.map PendingRow.number = List.range' first rows.length) : Batches.Joined first batches := by
  induction h generalizing first with
  | nil => trivial
  | @cons file index rows batches nonempty later ih =>
    have judged := outcomes_batch g file (rows.take size)
    obtain ⟨taken, left⟩ := PendingRow.numbers_cut numbers size
    have some : 0 < (rows.take size).length := by
      rw [List.length_take]
      exact Nat.lt_min.mpr ⟨positive, List.length_pos_iff.mpr nonempty⟩
    rw [judged.length_eq] at taken left some
    have summed := BatchSummary.rows_of index some (judged.numbers.trans taken)
    have next : (JudgedBatch.of index (g.batch file (rows.take size)).1).summary.lastRow + 1 = _ := summed.2
    refine ⟨summed.1, next, ?_⟩
    rw [next]
    exact ih left

theorem partition (positive : 0 < size) (h : g.Batched size file 0 rows batches)
    (numbers : rows.map PendingRow.number = List.range' 1 rows.length) :
    Batches.Partition g size rows batches where
  indexes := by rw [h.indexes, List.range_eq_range']
  full := h.full
  bounded := h.bounded positive
  outcomes := h.outcomes
  numbers := h.outcomes.numbers.trans numbers
  joined := h.joined positive numbers

end Judge.Batched

/-! ## What a run emits -/

namespace Batches

/-- A state with all the answers that were given and all the batches that were taken. -/
structure Recorded (σ : Type) where
  state : σ
  answers : List Bool
  batches : List JudgedBatch

namespace Recorded

variable {σ : Type}

def start (s : σ) : Recorded σ := ⟨s, [], []⟩

def poll (poll : σ → Bool × σ) (r : Recorded σ) : Bool × Recorded σ :=
  let (stop, s) := poll r.state
  (stop, { r with state := s, answers := r.answers ++ [stop] })

def take (take : JudgedBatch → σ → σ) (batch : JudgedBatch) (r : Recorded σ) : Recorded σ :=
  { r with state := take batch r.state, batches := r.batches ++ [batch] }

end Recorded

section

variable {σ : Type} (poll : σ → Bool × σ) (take : JudgedBatch → σ → σ) (b : Batches) (s : σ)

/-- Driving batches as if with a record. -/
def driveRecorded : Batches × Recorded σ := drive (Recorded.poll poll) (Recorded.take take) b (.start s)

/-- A record changes nothing. -/
theorem drive_eq_driveRecorded :
    drive poll take b s = ((driveRecorded poll take b s).1, (driveRecorded poll take b s).2.state) :=
  drive_view Recorded.state (fun _ => rfl) (fun _ _ => rfl) b (.start s)

/-- What is recorded is a run. -/
theorem driveRecorded_run :
    Run b (driveRecorded poll take b s).2.answers (driveRecorded poll take b s).2.batches
      (driveRecorded poll take b s).1 := by
  let Told (answers : List Bool) (batches : List JudgedBatch) (r : Recorded σ) : Prop :=
    r.answers = answers ∧ r.batches = batches
  have start : Told [] [] (.start s) := ⟨rfl, rfl⟩
  have run : ∃ answers batches, Run b answers batches (driveRecorded poll take b s).1 ∧
      Told ([] ++ answers) ([] ++ batches) (driveRecorded poll take b s).2 := by
    refine drive_run ?_ ?_ start
    · rintro _ _ r ⟨rfl, rfl⟩
      exact ⟨rfl, rfl⟩
    · rintro _ _ r batch ⟨rfl, rfl⟩
      exact ⟨rfl, rfl⟩
  obtain ⟨answers, batches, run, answered, taken⟩ := run
  rw [answered, taken]
  exact run

end

/-- The batches of a file that nobody stops. -/
def unstopped (b : Batches) : List JudgedBatch :=
  (driveRecorded (fun s : Unit => (false, s)) (fun _ s => s) b ()).2.batches

/-- There is no batch without a row. -/
theorem taken_of_next_some {b later : Batches} {batch : JudgedBatch} {items : List RowItem}
    (h : b.next = (some batch, later)) (left : b.left = .items items) : (Remaining.take b.size items).1 ≠ [] := by
  intro empty
  rw [next, left] at h
  simp only [empty, List.isEmpty_nil, if_true] at h
  cases h

/-- Where there is no batch, no row is left. -/
theorem pending_of_next_none {b later : Batches} (positive : 0 < b.size) (h : b.next = (none, later)) :
    b.left.pending = [] := by
  rcases next_none h with ⟨closed, -⟩ | ⟨items, left, none, -⟩
  · exact Remaining.pending_of_closed closed
  · obtain ⟨taken, -, -⟩ := Remaining.take_eq b.size items
    rw [taken] at none
    rw [left]
    exact (List.take_eq_nil_iff.mp none).resolve_left (Nat.ne_of_gt positive)

namespace Run

variable {b last last' : Batches} {answers answers' : List Bool} {batches batches' : List JudgedBatch}

/-- It is asked once before each batch, and once more at the end, unless the file has ended early. -/
theorem answers_eq (h : Run b answers batches last) (going : b.cancelled = false) :
    (last.cancelled = false ∧ true ∉ answers) ∨
      (last.cancelled = true ∧ answers = List.replicate batches.length false ++ [true]) := by
  induction h with
  | closed => exact .inl ⟨going, List.not_mem_nil⟩
  | stopped => exact .inr ⟨rfl, rfl⟩
  | ended _ next =>
    rcases next_none next with ⟨-, rfl⟩ | ⟨items, -, -, rfl⟩
    · exact .inl ⟨going, by simp⟩
    · exact .inl ⟨going, by simp⟩
  | judged _ next _ ih =>
    obtain ⟨items, -, -, rfl⟩ := next_some next
    rcases ih going with ⟨whole, never⟩ | ⟨cancelled, rfl⟩
    · exact .inl ⟨whole, by simpa using never⟩
    · exact .inr ⟨cancelled, rfl⟩

/-- **Whoever stops gets the first batches** of the run that nobody stops. -/
theorem isPrefix (h : Run b answers batches last) (h' : Run b answers' batches' last') (never : true ∉ answers') :
    batches <+: batches' := by
  induction h generalizing answers' batches' with
  | closed | stopped | ended => exact ⟨batches', rfl⟩
  | judged opened next _ ih =>
    cases h' with
    | closed closed => exact absurd opened (Bool.eq_false_iff.mp closed)
    | stopped => exact absurd (List.mem_singleton.mpr rfl) never
    | ended _ next' => cases next.symm.trans next'
    | judged _ next' rest =>
      cases next.symm.trans next'
      exact List.cons_prefix_cons.mpr ⟨rfl, ih rest fun stop => never (List.mem_cons_of_mem _ stop)⟩

/-- A run that nobody stops judges the rows that are left in batches of one size. -/
theorem batched (h : Run b answers batches last) (never : true ∉ answers) (going : b.cancelled = false)
    (positive : 0 < b.size) : b.judge.Batched b.size b.file b.index b.left.pending batches := by
  induction h with
  | closed closed =>
    rw [Remaining.pending_of_closed (closed_of_not_isOpen closed going)]
    exact .nil
  | stopped => exact absurd (List.mem_singleton.mpr rfl) never
  | ended _ next =>
    rw [pending_of_next_none positive next]
    exact .nil
  | @judged b _ _ _ _ _ _ next _ ih =>
    obtain ⟨items, left, rfl, rfl⟩ := next_some next
    obtain ⟨taken, pending, -⟩ := Remaining.take_eq b.size items
    have others := ih (fun stop => never (List.mem_cons_of_mem _ stop)) going positive
    simp only [taken, pending] at others ⊢
    rw [left]
    refine .cons (fun empty => taken_of_next_some next left ?_) others
    rw [taken, show Remaining.rowsOf items = [] from empty, List.take_nil]

end Run

/-- The batches of a file that nobody stops are those of a run without a stop. -/
theorem unstopped_run {b : Batches} (going : b.cancelled = false) :
    ∃ answers last, true ∉ answers ∧ Run b answers b.unstopped last := by
  have run := driveRecorded_run (fun s : Unit => (false, s)) (fun _ s => s) b ()
  have never : (driveRecorded (fun s : Unit => (false, s)) (fun _ s => s) b ()).1.cancelled = false :=
    drive_not_cancelled (fun _ => rfl) going
  rcases run.answers_eq going with ⟨-, unasked⟩ | ⟨cancelled, -⟩
  · exact ⟨_, _, unasked, run⟩
  · cases never.symm.trans cancelled

/-- The batches of a file that nobody stops judge its rows in batches of one size. -/
theorem batched_unstopped (g : Judge) {size : Nat} (positive : 0 < size) (asOf : Date) (items : List RowItem) :
    g.Batched size (.start asOf) 0 (Remaining.rowsOf items) (start g size asOf items).unstopped := by
  obtain ⟨answers, last, never, run⟩ := unstopped_run (b := start g size asOf items) rfl
  exact run.batched never rfl positive

/--
**Batches partition a file, and stopping cuts them off.** Let settings be valid, and let the items of a file be in
order. Then the size of a batch is within the bounds of the settings, and the batches of a run that nobody stops
partition the rows that come before the end or the failure: they are numbered from 0, all but the last are full and
none is empty, their outcomes are those of the rows 1, 2, 3, ..., each once, and the rows of each batch follow on
those of the batch before it. Whoever asks to stop, and whatever is done with the batches: a run that is not
cancelled emits all these batches, and a run that is cancelled emits as many of the first of them as it was told to
go on before.
-/
theorem drive_partition {settings : Settings} (valid : settings.check = .ok ()) (fileSize : Nat) (g : Judge)
    (asOf : Date) {items : List RowItem} (inOrder : RowItem.InOrder items) :
    let size := batchSize fileSize settings.minBatch settings.maxBatch
    let file := Batches.start g size asOf items
    (settings.minBatch ≤ size ∧ size ≤ settings.maxBatch) ∧
      Partition g size (Remaining.rowsOf items) file.unstopped ∧
      ∀ {σ : Type} (poll : σ → Bool × σ) (take : JudgedBatch → σ → σ) (s : σ),
        let run := driveRecorded poll take file s
        drive poll take file s = (run.1, run.2.state) ∧
          ((run.1.cancelled = false ∧ true ∉ run.2.answers ∧ run.2.batches = file.unstopped) ∨
            (run.1.cancelled = true ∧ run.2.answers = List.replicate run.2.batches.length false ++ [true] ∧
              run.2.batches <+: file.unstopped)) := by
  intro size file
  have positive : 0 < size := batchSize_pos _ _ _
  have partitioned : Partition g size (Remaining.rowsOf items) file.unstopped :=
    (batched_unstopped g positive asOf items).partition positive inOrder.numbers
  refine ⟨batchSize_bounds valid fileSize, partitioned, ?_⟩
  intro σ poll take s run
  have emitted : Run file run.2.answers run.2.batches run.1 := driveRecorded_run poll take file s
  have going : file.cancelled = false := rfl
  obtain ⟨answers, last, never, unstopped⟩ := unstopped_run going
  refine ⟨drive_eq_driveRecorded poll take file s, ?_⟩
  rcases emitted.answers_eq going with ⟨whole, unasked⟩ | ⟨cancelled, asked⟩
  · have all : run.2.batches = file.unstopped :=
      (emitted.isPrefix unstopped never).eq_of_length_le (unstopped.isPrefix emitted unasked).length_le
    exact .inl ⟨whole, unasked, all⟩
  · exact .inr ⟨cancelled, asked, emitted.isPrefix unstopped never⟩

/-- Three rows make a batch of two and a batch of one; whoever stops before the second batch gets the first. -/
theorem drive_partition_stopped :
    let settings : Settings := { Settings.standard with minBatch := 2, maxBatch := 2 }
    let items := Format.csv.rows (Text.encode "amount\n5\nx\n3\n")
    let g : Judge := ⟨⟨.sales, [⟨"amount", .decimal, true, []⟩], .empty⟩, .common, .start .sales "", 1⟩
    let file := start g (batchSize 0 settings.minBatch settings.maxBatch) .epoch items
    let run := driveRecorded (fun asked : Nat => (asked == 1, asked + 1)) (fun _ asked => asked) file 0
    settings.check = .ok () ∧ RowItem.InOrder items ∧
      file.unstopped.map (fun batch => (batch.summary.firstRow, batch.summary.lastRow)) = [(1, 2), (3, 3)] ∧
      Partition g 2 (Remaining.rowsOf items) file.unstopped ∧
      run.1.cancelled = true ∧ run.2.answers = [false, true] ∧ run.2.batches = file.unstopped.take 1 := by
  intro settings items g file run
  have valid : settings.check = .ok () := by decide
  have inOrder : RowItem.InOrder items := RowItem.inOrder_rows .csv _
  have cancelled : run.1.cancelled = true := by decide +kernel
  have once : run.2.batches.length = 1 := by decide +kernel
  obtain ⟨-, partitioned, runs⟩ := drive_partition valid 0 g .epoch inOrder
  rcases (runs (fun asked : Nat => (asked == 1, asked + 1)) (fun _ asked => asked) 0).2 with
    ⟨whole, -⟩ | ⟨-, asked, emitted⟩
  · cases cancelled.symm.trans whole
  · have first := List.prefix_iff_eq_take.mp emitted
    change run.2.answers = List.replicate run.2.batches.length false ++ [true] at asked
    change run.2.batches = file.unstopped.take run.2.batches.length at first
    rw [once] at asked first
    exact ⟨valid, inOrder, by decide +kernel, partitioned, cancelled, asked, first⟩

end Batches

end RecordGate
