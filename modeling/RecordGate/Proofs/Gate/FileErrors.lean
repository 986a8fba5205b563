import RecordGate.Proofs.File.Protocol
import RecordGate.Proofs.Gate.Settling
import RecordGate.Proofs.Gate.Steps

/-!
# A file that cannot be read on

While a file is judged, the rows that have been counted and the rows that are left are the rows of the file
(`RowsCounted`, kept by every batch). So a file that fails was judged up to its failure, and the failure told
how many rows there were: the response counts as many, and none of them as valid (`Gate.process_unreadable`).
Whatever stands around the gate, a warehouse that refuses the rows included, has no part in this.

`Gate.process_readsInOrder` puts this on what the reader of the file answers.
-/

namespace RecordGate

/-! ## Counting rows -/

theorem Judge.length_inOrder (g : Judge) (file : FileState) (rows : List PendingRow) :
    (g.inOrder file rows).1.length = rows.length := by
  induction rows generalizing file with
  | nil => rfl
  | cons r rest ih => rw [inOrder_cons, List.length_cons, ih, List.length_cons]

/-- Every row of a batch is judged, in whichever way. -/
theorem Judge.length_batch (g : Judge) (file : FileState) (rows : List PendingRow) :
    (g.batch file rows).1.length = rows.length := by
  unfold batch
  split
  · exact List.length_map _
  · exact g.length_inOrder file rows

namespace Loading

variable {σ : Type} (loader : Loader σ) (load : LoadId) (table : String) (l : Loading σ)

theorem totalRows_take (batch : JudgedBatch) :
    (l.take loader load table batch).tally.totalRows = l.tally.totalRows + batch.summary.totalRows :=
  congrArg (fun t : Tally => t.totalRows + batch.summary.totalRows) (tally_stage loader load table l batch.validRows)

end Loading

/-- The rows that are tallied and those that are left are the rows of the file, and the end is the same. -/
structure RowsCounted {σ : Type} (items : List RowItem) (b : Batches) (l : Loading σ) : Prop where
  rows : l.tally.totalRows + b.left.pending.length = (Remaining.rowsOf items).length
  failure : b.left.failure? = Remaining.failureOf? items

namespace RowsCounted

variable {σ : Type} {items : List RowItem} {b later : Batches} {l : Loading σ} {loader : Loader σ} {load : LoadId}
  {table : String} {batch : JudgedBatch}

theorem take (h : RowsCounted items b l) (next : b.next = (some batch, later)) :
    RowsCounted items later (l.take loader load table batch) := by
  obtain ⟨is, left, rfl, rfl⟩ := Batches.next_some next
  obtain ⟨taken, failure⟩ := Remaining.take_spec b.size is
  have judged : (JudgedBatch.of b.index (b.judge.batch b.file (Remaining.take b.size is).1).1).summary.totalRows =
      (Remaining.take b.size is).1.length :=
    (List.length_map _).trans (b.judge.length_batch b.file _)
  have counted := h.rows
  rw [left] at counted
  change l.tally.totalRows + (Remaining.rowsOf is).length = _ at counted
  rw [← taken, List.length_append] at counted
  refine ⟨?_, failure.trans (by rw [← h.failure, left]; rfl)⟩
  rw [Loading.totalRows_take, judged, ← counted, Nat.add_assoc]

theorem ended (h : RowsCounted items b l) (next : b.next = (none, later)) : RowsCounted items later l := by
  rcases Batches.next_none next with ⟨-, rfl⟩ | ⟨is, left, none, rfl⟩
  · exact h
  · obtain ⟨taken, failure⟩ := Remaining.take_spec b.size is
    rw [none, List.nil_append] at taken
    refine ⟨?_, failure.trans (by rw [← h.failure, left]; rfl)⟩
    change l.tally.totalRows + (Remaining.take b.size is).2.pending.length = _
    rw [taken, ← h.rows, left]
    rfl

/-- Rows are counted right to the end, whoever asks to stop. -/
theorem drive {poll : Loading σ → Bool × Loading σ} (asked : ∀ l, (poll l).2.tally = l.tally)
    (h : RowsCounted items b l) :
    let run := b.drive poll (Loading.take loader load table) l
    RowsCounted items run.1 run.2 := by
  have poll_keeps {b : Batches} {l : Loading σ} (h : RowsCounted items b l) : RowsCounted items b (poll l).2 :=
    ⟨(asked l).symm ▸ h.rows, h.failure⟩
  refine Batches.drive_invariant (P := RowsCounted items) ?_ ?_ ?_ ?_ h
  · exact fun b l h => poll_keeps h
  · intro b l h stop
    exact ⟨(poll_keeps h).rows, h.failure⟩
  · exact fun b l batch later next h => h.take next
  · exact fun b l later next h => h.ended next

/-- A run that ended with a failure has counted the rows up to it. -/
theorem of_fileError? (h : RowsCounted items b l) {e : FileError} (failed : b.fileError? = some e) :
    Remaining.failureOf? items = some e ∧ l.tally.totalRows = (Remaining.rowsOf items).length := by
  have closed : b.left = .failed e := by
    unfold Batches.fileError? at failed
    split at failed
    · next e' left => exact Option.some.inj failed ▸ left
    · cases failed
  obtain ⟨rows, failure⟩ := h
  rw [closed] at rows failure
  exact ⟨failure.symm, rows⟩

end RowsCounted

/-! ## The response -/

/-- A response to a file that could not be read on: every row that was read counts as invalid. -/
structure Response.CountsInvalid (r : Response) (e : FileError) : Prop where
  fileError : r.fileError = some e.text
  totalRows : r.totalRows = e.rowsRead
  invalidRows : r.invalidRows = e.rowsRead
  validRows : r.validRows = 0

namespace Gate

variable {σ : Type}

/--
**A file that cannot be read on is counted up to there.** A file that is judged to have failed holds a failure
to read on, and all rows before it count as invalid; and a file that holds a failure fails when nobody asks to
stop.
-/
theorem judge_unreadable (g : Gate) (s : Surroundings σ) (source : String) (file : Admitted) (schema : Schema)
    (plan : RulePlan) (now : Timestamp) (state : GateState σ) :
    let response := (g.judge s source file schema plan now state).1.response
    let items := file.format.rows file.content
    (response.status = .failed → ∃ e, .failed e ∈ items ∧ response.CountsInvalid e) ∧
      ((∀ around, (s.cancelled around).1 = false) → (∃ e, .failed e ∈ items) → response.status = .failed) := by
  intro response items
  let table := file.recordType.table
  let size := batchSize file.content.length g.settings.minBatch g.settings.maxBatch
  let about : FileMeta := ⟨source, some file.recordType, plan.fingerprint, plan.warnings⟩
  let poll (l : Loading σ) : Bool × Loading σ :=
    ((s.cancelled l.around).1, { l with around := (s.cancelled l.around).2 })
  let run := (Batches.start (g.judgeWith schema plan) size (g.settings.processingDate now.date) items).drive
    poll (Loading.take s.loader state.nextLoad table) ⟨.start about, [], state.around⟩
  have closed : response = run.2.tally.close (statusOf run.1) (run.1.fileError?.map FileError.text) := by
    rw [← Loading.tally_settle s.loader state.nextLoad table run.2 (statusOf run.1)]
    rfl
  have status : response.status = statusOf run.1 := congrArg (·.status) closed
  have counted : RowsCounted items run.1 run.2 := RowsCounted.drive (fun l => rfl) ⟨Nat.zero_add _, rfl⟩
  constructor
  · intro failed
    obtain ⟨e, fileError⟩ := statusOf_eq_failed.mp (status.symm.trans failed)
    obtain ⟨failure, totalRows⟩ := counted.of_fileError? fileError
    rw [← Format.rowsRead_of_failure failure] at totalRows
    rw [statusOf_eq_failed.mpr ⟨e, fileError⟩, fileError] at closed
    rw [closed]
    exact ⟨e, Format.failureOf?_rows.mp failure, rfl, totalRows, totalRows, rfl⟩
  · rintro never ⟨e, held⟩
    have going : run.1.cancelled = false := Batches.drive_not_cancelled (fun l => never l.around) rfl
    have left := Batches.closed_of_not_isOpen (Batches.drive_closed (batchSize_pos _ _ _)) going
    have fileError : run.1.fileError? = some e :=
      (Batches.fileError?_of_closed left).trans (counted.failure.trans (Format.failureOf?_rows.mpr held))
    exact status.trans (statusOf_eq_failed.mpr ⟨e, fileError⟩)

/--
**A file is read in order, and a failure to read on decides its response.** In every format the reader of any
bytes comes to an end, numbers the rows from 1 without a gap, and answers at most one failure to read on, as
the last item and with the number of the rows before it.

Whatever gate processes such a file under a consistent schema, in whatever surroundings that have a pool of workers if
one is called for: it answers. When the response says that the file failed, the reader answered a failure, and all rows
before it, as many as it told, are counted and count as invalid. When the reader answers a failure and nobody asks to
stop, the response says that the file failed.
-/
theorem process_readsInOrder (format : Format) (input : Bytes) :
    (format.stream input).InOrder ∧
      ∀ (g : Gate) (s : Surroundings σ) (repository : Repository) (r : Request) (content : Except OpenError Bytes)
        (now : Timestamp) (state : GateState σ) (t : RecordType), r.admission content = .ok ⟨t, format, input⟩ →
        (g.schemaFor t).consistent? g.engine = .ok () → g.HasPool s repository r content state →
        ∃ outcome after, g.process s repository r content now state = (.ok outcome, after) ∧
          (outcome.response.status = .failed →
            ∃ k e, (format.stream input).answer k = some (.failed e) ∧ outcome.response.CountsInvalid e) ∧
          ((∀ around, (s.cancelled around).1 = false) →
            (∃ k e, (format.stream input).answer k = some (.failed e)) → outcome.response.status = .failed) := by
  have answered (e : FileError) :
      (∃ k, (format.stream input).answer k = some (.failed e)) ↔ .failed e ∈ format.rows input := by
    simp only [RowStream.answer_stream, List.mem_iff_getElem?]
  refine ⟨RowStream.inOrder_stream format input, ?_⟩
  intro g s repository r content now state t admitted consistent ready
  obtain ⟨counts, fails⟩ := judge_unreadable g s r.source ⟨t, format, input⟩ (g.schemaFor t)
    (RulePlan.build (repository.rulesFor t) (g.schemaFor t) state.cache).1 now
    { state with cache := (RulePlan.build (repository.rulesFor t) (g.schemaFor t) state.cache).2 }
  refine ⟨_, _, process_of_admitted admitted consistent ready, fun failed => ?_, ?_⟩
  · obtain ⟨e, held, counted⟩ := counts failed
    obtain ⟨k, given⟩ := (answered e).mpr held
    exact ⟨k, e, given, counted⟩
  · rintro never ⟨k, e, given⟩
    exact fails never ⟨e, (answered e).mp ⟨k, given⟩⟩

/-- An array that breaks off in its second element: its one row is counted, as invalid. -/
theorem process_readsInOrder_truncated :
    let schema : Schema := ⟨.sales, [⟨"amount", .decimal, true, []⟩], .empty⟩
    let gate : Gate := ⟨.standard, rfl, [schema], .common⟩
    let request : Request := ⟨"sales.json", some .sales, none⟩
    let input : Bytes := Text.encode "[\x7b\"amount\": 1\x7d, \x7b\"amount\""
    let state : GateState (Warehouse × Unit) := ⟨.new .standard RuleCache.spread, 0, (.empty, ())⟩
    let around : Surroundings (Warehouse × Unit) :=
      .memory (fun _ => (false, ())) (fun _ _ => (.ok (), ())) fun _ _ => .ok ()
    request.admission (.ok input) = .ok ⟨.sales, .json, input⟩ ∧
      (gate.schemaFor .sales).consistent? gate.engine = .ok () ∧
      gate.HasPool around (.ofRules []) request (.ok input) state ∧ (Format.json.stream input).InOrder ∧
      ∃ outcome after,
        gate.process around (.ofRules []) request (.ok input) (.midnight .epoch) state = (.ok outcome, after) ∧
        outcome.response.status = .failed ∧ outcome.response.totalRows = 1 ∧
        ∃ k e, (Format.json.stream input).answer k = some (.failed e) ∧ outcome.response.CountsInvalid e := by
  intro schema gate request input state around
  have admitted : request.admission (.ok input) = .ok ⟨.sales, .json, input⟩ := by decide +kernel
  have consistent : (gate.schemaFor .sales).consistent? gate.engine = .ok () := rfl
  have ready : gate.HasPool around (.ofRules []) request (.ok input) state := .of_all fun _ _ => rfl
  have evaluated : ((gate.process around (.ofRules []) request (.ok input) (.midnight .epoch) state).1.toOption.any
      fun o => o.response.status = .failed ∧ o.response.totalRows = 1) = true := by decide +kernel
  obtain ⟨inOrder, processed⟩ := process_readsInOrder .json input
  obtain ⟨outcome, after, processed, counts, -⟩ :=
    processed gate around (.ofRules []) request (.ok input) (.midnight .epoch) state .sales admitted consistent ready
  rw [processed] at evaluated
  obtain ⟨failed, one⟩ : outcome.response.status = .failed ∧ outcome.response.totalRows = 1 :=
    of_decide_eq_true evaluated
  exact ⟨admitted, consistent, ready, inOrder, outcome, after, processed, failed, one, counts failed⟩

end Gate

end RecordGate
