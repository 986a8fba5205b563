import RecordGate.Proofs.Batch.Driving
import RecordGate.Proofs.Gate.Steps
import RecordGate.Proofs.Response.Tally
import RecordGate.Proofs.Rule.Plans
import RecordGate.Proofs.Schema.Consistency
import RecordGate.Proofs.Warehouse.Memory

/-!
# Judging a file in front of a warehouse in memory

While a file is judged, three things go together (`Progress`): the rows that have been judged are the first
rows of the file, judged in order; the tally holds the sums over their outcomes; and from the warehouse as it
was, nothing has happened but that the valid ones among them were staged under the load of the file. Every
batch keeps this (`Progress.take`), so it holds where the file ends, however it does (`Ending`). Settling the
load then loads these rows or none (`Gate.judge_settled`).
-/

namespace RecordGate

/-- The operations of a loader on the first part of a state. -/
def Loader.onFirst {σ τ : Type} (loader : Loader σ) : Loader (σ × τ) where
  stage load table rows s :=
    let (count, first) := loader.stage load table rows s.1
    (count, (first, s.2))
  commit load table s :=
    let (count, first) := loader.commit load table s.1
    (count, (first, s.2))
  abort load table s :=
    let (done, first) := loader.abort load table s.1
    (done, (first, s.2))

/-- A warehouse in memory, and beside it whatever asks to stop, keeps the audit records and builds pools of workers. -/
def Surroundings.memory {τ : Type} (cancelled : τ → Bool × τ) (keep : AuditRecord → τ → Except String Unit × τ)
    (pool : Nat → τ → Except String Unit) : Surroundings (Warehouse × τ) where
  loader := Warehouse.loader.onFirst
  cancelled s := ((cancelled s.2).1, (s.1, (cancelled s.2).2))
  keep a s := ((keep a s.2).1, (s.1, (keep a s.2).2))
  pool workers s := pool workers s.2

/-- The values of the valid rows. -/
def validRows (judged : List Judged) : List TableRow := judged.filterMap (·.values)

/-- What is known of a file without the list of its batches. -/
def FileOutcome.withoutBatches (o : FileOutcome) : FileOutcome := { o with response := o.response.withoutBatches }

/-- What is known of a file, without its batches, that ended in the given way when these rows had been judged. -/
def FileOutcome.settled (about : FileMeta) (judged : List Judged) (status : FileStatus) (failure : Option FileError)
    (now : Timestamp) : FileOutcome :=
  let response := (Tally.ofOutcomes about (judged.map (·.outcome))).close status (failure.map FileError.text)
  ⟨response.withoutBatches, .of response now, if status = .completed then (validRows judged).length else 0, []⟩

/-- A warehouse after a file that ended in the given way when these rows had been judged. -/
def Warehouse.settled (w : Warehouse) (table : String) (judged : List Judged) (status : FileStatus) : Warehouse :=
  if status = .completed then w.loaded table (validRows judged) else w

/-! ## How a file ends -/

/--
How the judging of a file may end. A file that is completed was judged to its end, and one that nobody
stopped was judged as far as it can be read.
-/
structure Ending (items : List RowItem) (unstopped : Prop) (done : List PendingRow) (status : FileStatus)
    (failure : Option FileError) : Prop where
  rows : done <+: Remaining.rowsOf items
  completed : status = .completed → done = Remaining.rowsOf items ∧ Remaining.failureOf? items = none
  unstopped : unstopped → done = Remaining.rowsOf items ∧ failure = Remaining.failureOf? items ∧
    status = if failure.isSome then .failed else .completed

namespace Gate

theorem statusOf_eq_completed {b : Batches} : statusOf b = .completed ↔ b.fileError? = none ∧ b.cancelled = false := by
  unfold statusOf
  cases b.fileError? with
  | some e => simp
  | none => cases b.cancelled <;> simp

theorem statusOf_of_not_cancelled {b : Batches} (h : b.cancelled = false) :
    statusOf b = if b.fileError?.isSome then .failed else .completed := by
  unfold statusOf
  rw [h]
  cases b.fileError? <;> rfl

end Gate

/-- A run at whose end nothing is open has come to an end of the file. -/
theorem Batches.HasJudged.ending {g : Judge} {asOf : Date} {items : List RowItem} {unstopped : Prop}
    {done : List PendingRow} {b : Batches} (h : b.HasJudged g asOf items done)
    (going : unstopped → b.cancelled = false) (ended : b.isOpen = false) :
    Ending items unstopped done (Gate.statusOf b) b.fileError? := by
  -- A run that was not stopped has judged every row and knows how the file ended.
  have judgedAll (going : b.cancelled = false) :
      done = Remaining.rowsOf items ∧ b.fileError? = Remaining.failureOf? items := by
    have closed := Batches.closed_of_not_isOpen ended going
    exact ⟨h.all closed, (Batches.fileError?_of_closed closed).trans h.failure⟩
  refine ⟨⟨_, h.rows⟩, fun completed => ?_, fun never => ?_⟩
  · obtain ⟨noError, going⟩ := Gate.statusOf_eq_completed.mp completed
    obtain ⟨all, failure⟩ := judgedAll going
    exact ⟨all, failure.symm.trans noError⟩
  · obtain ⟨all, failure⟩ := judgedAll (going never)
    exact ⟨all, failure, Gate.statusOf_of_not_cancelled (going never)⟩

/-! ## While the file is judged -/

section Progress

variable {τ : Type} {g : Judge} {asOf : Date} {items : List RowItem} {about : FileMeta} {start : Warehouse}
  {load : LoadId} {table : String} {b later : Batches} {batch : JudgedBatch} {l : Loading (Warehouse × τ)}

/-- What is tallied and staged are the rows that have been judged. -/
structure Progress (g : Judge) (asOf : Date) (items : List RowItem) (about : FileMeta) (start : Warehouse)
    (load : LoadId) (table : String) (done : List PendingRow) (b : Batches) (l : Loading (Warehouse × τ)) : Prop where
  judged : b.HasJudged g asOf items done
  tally : l.tally.sums = Tally.ofOutcomes about ((g.inOrder (.start asOf) done).1.map (·.outcome))
  errors : l.errors = []
  staging : start.Staging load table (validRows (g.inOrder (.start asOf) done).1) l.around.1

/-- Staging rows in memory never fails. -/
theorem stage_memory {rows : List TableRow} (more : List TableRow) (errors : l.errors = [])
    (h : start.Staging load table rows l.around.1) :
    let next := l.stage Warehouse.loader.onFirst load table more
    next.tally = l.tally ∧ next.errors = [] ∧ start.Staging load table (rows ++ more) next.around.1 := by
  intro next
  by_cases empty : more = []
  · have same : next = l := by
      subst empty
      rfl
    rw [same, empty, List.append_nil]
    exact ⟨rfl, errors, h⟩
  · have staged : next = { l with around := (l.around.1.stage load table more, l.around.2) } := by
      have goes : ¬(more.isEmpty || !l.errors.isEmpty) = true := by
        simpa [errors] using empty
      exact if_neg goes
    rw [staged]
    exact ⟨rfl, errors, h.stage⟩

theorem Progress.take (candid : g.plan.Candid) {done : List PendingRow}
    (h : Progress g asOf items about start load table done b l) (next : b.next = (some batch, later)) :
    ∃ done', Progress g asOf items about start load table done' later
      (l.take Warehouse.loader.onFirst load table batch) := by
  obtain ⟨rows, judged, more, rfl, all⟩ := h.judged.next candid next
  obtain ⟨tally, errors, staging⟩ :=
    stage_memory (validRows more) h.errors h.staging
  refine ⟨done ++ rows, judged, ?_, errors, ?_⟩
  · rw [all, List.map_append, ← Tally.sums_push h.tally b.index (more.map (·.outcome)), ← tally]
    rfl
  · rw [all, validRows, List.filterMap_append]
    exact staging

/-- Progress does not depend on who asked to stop. -/
theorem Progress.drive (candid : g.plan.Candid) {poll : Loading (Warehouse × τ) → Bool × Loading (Warehouse × τ)}
    (asked : ∀ l, (poll l).2.tally = l.tally ∧ (poll l).2.errors = l.errors ∧ (poll l).2.around.1 = l.around.1)
    (h : Progress g asOf items about start load table [] b l) :
    let run := b.drive poll (Loading.take Warehouse.loader.onFirst load table) l
    ∃ done, Progress g asOf items about start load table done run.1 run.2 := by
  have poll_keeps {done : List PendingRow} {b : Batches} {l : Loading (Warehouse × τ)}
      (h : Progress g asOf items about start load table done b l) :
      Progress g asOf items about start load table done b (poll l).2 := by
    obtain ⟨tally, errors, around⟩ := asked l
    exact ⟨h.judged, tally ▸ h.tally, errors ▸ h.errors, around ▸ h.staging⟩
  -- Which rows have been judged changes from step to step; that some first rows have is what is kept.
  refine Batches.drive_invariant
    (P := fun b l => ∃ done, Progress g asOf items about start load table done b l) ?_ ?_ ?_ ?_ ⟨[], h⟩
  · rintro b l ⟨done, h⟩
    exact ⟨done, poll_keeps h⟩
  · rintro b l ⟨done, h⟩ -
    have kept := poll_keeps h
    exact ⟨done, kept.judged.cancel, kept.tally, kept.errors, kept.staging⟩
  · rintro b l batch later next ⟨done, h⟩
    exact h.take candid next
  · rintro b l later next ⟨done, h⟩
    exact ⟨done, h.judged.ended next, h.tally, h.errors, h.staging⟩

/-- Settling in memory loads what is staged when the file was read to its end, and otherwise nothing. -/
theorem settle_memory {rows : List TableRow} (errors : l.errors = []) (h : start.Staging load table rows l.around.1)
    (status : FileStatus) :
    l.settle Warehouse.loader.onFirst load table status =
      (if status = .completed then rows.length else 0,
        { l with around := (if status = .completed then start.loaded table rows else start, l.around.2) }) := by
  by_cases completed : status = .completed
  · have commits : (status == .completed && l.errors.isEmpty) = true := by simp [completed, errors]
    have commit : Warehouse.loader.onFirst.commit load table l.around =
        (.ok rows.length, (start.loaded table rows, l.around.2)) := by
      change (Except.ok (l.around.1.commit load table).1, ((l.around.1.commit load table).2, l.around.2)) = _
      rw [h.commit]
    rw [Loading.settle, if_pos commits, if_pos completed, if_pos completed, commit]
  · have aborts : ¬(status == .completed && l.errors.isEmpty) = true := by simp [completed]
    rw [Loading.settle, if_neg aborts, if_neg completed, if_neg completed, ← h.others]
    rfl

end Progress

/-! ## The whole file -/

namespace Gate

/-- What is tallied tells all about a file but its batches. -/
theorem withoutBatches_eq_settled {about : FileMeta} {tally : Tally} {judged : List Judged}
    (h : tally.sums = Tally.ofOutcomes about (judged.map (·.outcome))) (status : FileStatus)
    (failure : Option FileError) (now : Timestamp) :
    let response := tally.close status (failure.map FileError.text)
    FileOutcome.withoutBatches
        ⟨response, .of response now, if status = .completed then (validRows judged).length else 0, []⟩ =
      .settled about judged status failure now := by
  intro response
  have same : response.withoutBatches =
      ((Tally.ofOutcomes about (judged.map (·.outcome))).close status (failure.map FileError.text)).withoutBatches := by
    rw [Tally.close_sums, h]
  have audit : AuditRecord.of response now = .of ((Tally.ofOutcomes about (judged.map (·.outcome))).close status
      (failure.map FileError.text)) now := by
    rw [← AuditRecord.of_withoutBatches, same, AuditRecord.of_withoutBatches]
  rw [FileOutcome.withoutBatches, FileOutcome.settled, same, audit]

variable {τ : Type}

/--
**A file is loaded whole or not at all.** When a file has been judged, its response, its audit record and the
count of its loaded rows are those of some first rows of the file, judged in order, and the warehouse has
gained the valid ones among them or nothing.
-/
theorem judge_settled (g : Gate) (cancelled : τ → Bool × τ) (keep : AuditRecord → τ → Except String Unit × τ)
    (pool : Nat → τ → Except String Unit) (source : String) (file : Admitted) (schema : Schema) {plan : RulePlan}
    (candid : plan.Candid) (now : Timestamp) (state : GateState (Warehouse × τ))
    (unstaged : state.around.1.Unstaged state.nextLoad file.recordType.table) :
    let judge := g.judgeWith schema plan
    let result := g.judge (.memory cancelled keep pool) source file schema plan now state
    ∃ done status failure,
      Ending (file.format.rows file.content) (∀ s, (cancelled s).1 = false) done status failure ∧
        let judged := (judge.inOrder (.start (g.settings.processingDate now.date)) done).1
        result.1.withoutBatches =
            .settled ⟨source, some file.recordType, plan.fingerprint, plan.warnings⟩ judged status failure now ∧
          result.2.around.1 = state.around.1.settled file.recordType.table judged status := by
  intro judge result
  let items := file.format.rows file.content
  let table := file.recordType.table
  let load := state.nextLoad
  let asOf := g.settings.processingDate now.date
  let size := batchSize file.content.length g.settings.minBatch g.settings.maxBatch
  let about : FileMeta := ⟨source, some file.recordType, plan.fingerprint, plan.warnings⟩
  let poll (l : Loading (Warehouse × τ)) : Bool × Loading (Warehouse × τ) :=
    ((cancelled l.around.2).1, { l with around := (l.around.1, (cancelled l.around.2).2) })
  let run := (Batches.start judge size asOf items).drive poll (Loading.take Warehouse.loader.onFirst load table)
    ⟨.start about, [], state.around⟩
  let conclusion (settled : Nat × Loading (Warehouse × τ)) : FileOutcome × GateState (Warehouse × τ) :=
    conclude (.memory cancelled keep pool) now
      (settled.2.tally.close (statusOf run.1) (run.1.fileError?.map FileError.text))
      settled.1 settled.2.errors { state with nextLoad := load + 1, around := settled.2.around }
  have concluded : result = conclusion (run.2.settle Warehouse.loader.onFirst load table (statusOf run.1)) := rfl
  obtain ⟨done, progress⟩ : ∃ done, Progress judge asOf items about state.around.1 load table done run.1 run.2 :=
    Progress.drive candid (fun l => ⟨rfl, rfl, rfl⟩)
      ⟨.start judge size asOf items, Tally.sums_start about, rfl, .refl unstaged⟩
  rw [settle_memory progress.errors progress.staging] at concluded
  refine ⟨done, statusOf run.1, run.1.fileError?, progress.judged.ending (fun never => ?_) ?_, ?_, ?_⟩
  · exact Batches.drive_not_cancelled (fun l => never l.around.2) rfl
  · exact Batches.drive_closed (batchSize_pos _ _ _)
  · rw [concluded, ← withoutBatches_eq_settled progress.tally, ← progress.errors]
    rfl
  · rw [concluded]
    rfl

end Gate

/-! ## Requests -/

/-- A file is admitted as one of the record type of its request. -/
theorem Request.recordType?_of_admission {r : Request} {content : Except OpenError Bytes} {file : Admitted}
    (h : r.admission content = .ok file) : r.recordType? = some file.recordType := by
  unfold admission at h
  split at h
  · cases h
  next t known =>
  split at h
  · cases h
  · split at h
    · cases h
    · cases h
      exact known

namespace Gate

/-- A gate whose own schemas are consistent has a consistent schema for every record type. -/
theorem schemaFor_consistent {g : Gate} (reads : g.engine.ReadsBuiltin)
    (accepted : ∀ schema ∈ g.schemas, schema.consistent? g.engine = .ok ()) (t : RecordType) :
    (g.schemaFor t).consistent? g.engine = .ok () := by
  unfold schemaFor
  cases found : g.schemas.find? (·.recordType = t) with
  | none => exact Schema.builtin_consistent reads t
  | some schema => exact accepted schema (List.mem_of_find?_eq_some found)

variable {τ : Type}

/-- A file that is admitted is answered, and loaded whole or not at all. -/
theorem process_settled {g : Gate} (reads : g.engine.ReadsBuiltin)
    (accepted : ∀ schema ∈ g.schemas, schema.consistent? g.engine = .ok ()) (cancelled : τ → Bool × τ)
    (keep : AuditRecord → τ → Except String Unit × τ) (pool : Nat → τ → Except String Unit) (repository : Repository)
    (r : Request) {content : Except OpenError Bytes} (now : Timestamp) (state : GateState (Warehouse × τ))
    (ready : g.HasPool (.memory cancelled keep pool) repository r content state) {file : Admitted}
    (h : r.admission content = .ok file) (reachable : state.cache.Reachable)
    (unstaged : state.around.1.Unstaged state.nextLoad file.recordType.table) :
    let judge := g.judgeFor repository state.cache file.recordType
    ∃ outcome after done status failure,
      g.process (.memory cancelled keep pool) repository r content now state = (.ok outcome, after) ∧
      Ending (file.format.rows file.content) (∀ s, (cancelled s).1 = false) done status failure ∧
        let judged := (judge.inOrder (.start (g.settings.processingDate now.date)) done).1
        outcome.withoutBatches = .settled
            ⟨r.source, some file.recordType, judge.plan.fingerprint, judge.plan.warnings⟩ judged status failure now ∧
          after.around.1 = state.around.1.settled file.recordType.table judged status := by
  intro judge
  have candid := RulePlan.build_candid reachable (repository.rulesFor file.recordType) (g.schemaFor file.recordType)
  let cache := (RulePlan.build (repository.rulesFor file.recordType) (g.schemaFor file.recordType) state.cache).2
  obtain ⟨done, status, failure, ending⟩ :=
    judge_settled g cancelled keep pool r.source file (g.schemaFor file.recordType) candid now
      { state with cache := cache } unstaged
  exact ⟨_, _, done, status, failure,
    process_of_admitted h (schemaFor_consistent reads accepted file.recordType) ready, ending⟩

end Gate

/-- What an outcome says of a file that was settled. -/
theorem FileOutcome.of_settled {o : FileOutcome} {about : FileMeta} {judged : List Judged} {status : FileStatus}
    {failure : Option FileError} {now : Timestamp} (h : o.withoutBatches = settled about judged status failure now) :
    o.response.status = status ∧ o.loadedRows = (if status = .completed then (validRows judged).length else 0) ∧
      (status = .completed → o.response.validRows = (judged.map (·.outcome)).countP (·.isValid)) := by
  refine ⟨congrArg (·.response.status) h, congrArg (·.loadedRows) h, fun completed => ?_⟩
  have valid : o.response.validRows = _ := congrArg (·.response.validRows) h
  subst completed
  exact valid.trans (Tally.validRows_ofOutcomes about _)

end RecordGate
