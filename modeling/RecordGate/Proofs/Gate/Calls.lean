import RecordGate.Proofs.Gate.Events

/-!
# How a warehouse is called

Whatever a warehouse answers, a file is loaded in one way: its valid rows are staged batch by batch until a call
fails (`Staged`), and then the load is settled once (`Settled`). While the batches are driven, the log holds the
answers of the run and the calls that stage its batches (`Going`, kept by every question and every batch). What
is tallied is told by the batches, and those by the answers, so that no answer of the warehouse shows in the
response (`Gate.judge_replaying`).
-/

namespace RecordGate

/-- Lists of rows are staged, one in a call, until a call fails. -/
inductive Staged (load : LoadId) (table : String) : List (List TableRow) → List Call → Prop
  | nil : Staged load table [] []
  | staged {rows : List TableRow} {todo : List (List TableRow)} {calls : List Call} (count : Nat) :
      Staged load table todo calls → Staged load table (rows :: todo) (.stage load table rows (.ok count) :: calls)
  | refused {rows : List TableRow} {todo : List (List TableRow)} (e : LoadError) :
      Staged load table (rows :: todo) [.stage load table rows (.error e)]

/-- A load is committed if it may be, and aborted if it was not; so many rows are loaded. -/
inductive Settled (load : LoadId) (table : String) : Bool → List Call → Nat → Prop
  | committed (count : Nat) : Settled load table true [.commit load table (.ok count)] count
  | refused (e : LoadError) (answer : Except LoadError Unit) :
      Settled load table true [.commit load table (.error e), .abort load table answer] 0
  | aborted (answer : Except LoadError Unit) : Settled load table false [.abort load table answer] 0

/-- The valid rows of batches that have any. -/
def toStage (batches : List JudgedBatch) : List (List TableRow) :=
  (batches.map (·.validRows)).filter fun rows => !rows.isEmpty

/-- What is tallied of batches. -/
def Tally.ofBatches (about : FileMeta) (batches : List JudgedBatch) : Tally :=
  batches.foldl (fun t b => t.push b.summary b.outcomes) (.start about)

theorem Tally.ofBatches_append (about : FileMeta) (batches : List JudgedBatch) (batch : JudgedBatch) :
    ofBatches about (batches ++ [batch]) = (ofBatches about batches).push batch.summary batch.outcomes :=
  List.foldl_append

theorem Tally.about_ofBatches (about : FileMeta) (batches : List JudgedBatch) :
    (ofBatches about batches).about = about := by
  have kept (t : Tally) : (batches.foldl (fun t b => t.push b.summary b.outcomes) t).about = t.about := by
    induction batches generalizing t with
    | nil => rfl
    | cons b rest ih => exact ih (t.push b.summary b.outcomes)
  exact kept (.start about)

/-- The response to a file with these batches that ended like this. -/
def Gate.responseTo (about : FileMeta) (batches : List JudgedBatch) (last : Batches) : Response :=
  (Tally.ofBatches about batches).close (statusOf last) (last.fileError?.map FileError.text)

namespace Staged

variable {load : LoadId} {table : String} {todo : List (List TableRow)} {calls : List Call}

/-- After calls that went well one more is made. -/
theorem append (h : Staged load table todo calls) (well : calls.filterMap Call.error? = []) (rows : List TableRow)
    (answer : Except LoadError Nat) :
    Staged load table (todo ++ [rows]) (calls ++ [.stage load table rows answer]) := by
  induction h with
  | nil =>
    cases answer with
    | ok count => exact .staged count .nil
    | error e => exact .refused e
  | staged count _ ih => exact .staged count (ih well)
  | refused e => cases well

/-- After a call that failed no more is made. -/
theorem skip (h : Staged load table todo calls) (failed : calls.filterMap Call.error? ≠ []) (rows : List TableRow) :
    Staged load table (todo ++ [rows]) calls := by
  induction h with
  | nil => exact absurd rfl failed
  | staged count _ ih => exact .staged count (ih failed)
  | refused e => exact .refused e

end Staged

theorem toStage_append (batches : List JudgedBatch) (batch : JudgedBatch) :
    toStage (batches ++ [batch]) = toStage batches ++ if batch.validRows.isEmpty then [] else [batch.validRows] := by
  unfold toStage
  rw [List.map_append, List.filter_append]
  cases empty : batch.validRows.isEmpty <;> simp [empty]

/--
The course of the load of a file: what happens while the batches of the file are driven, the calls that settle
the load, the batches and the end they come to, and what is known of the file afterwards.
-/
structure LoadCourse (opened : Batches) (about : FileMeta) (load : LoadId) (table : String) (going : List Event)
    (settling : List Call) (batches : List JudgedBatch) (last : Batches) (outcome : FileOutcome) : Prop where
  run : opened.Run (going.filterMap Event.answer?) batches last
  staged : Staged load table (toStage batches) (going.filterMap Event.call?)
  unaudited : going.filterMap Event.record? = []
  settled : Settled load table
    (outcome.response.status == .completed && ((going.filterMap Event.call?).filterMap Call.error?).isEmpty) settling
    outcome.loadedRows
  errors : outcome.loadErrors = (going.filterMap Event.call? ++ settling).filterMap Call.error?
  response : outcome.response = Gate.responseTo about batches last

/-! ## While the batches are driven -/

/-- What there is after these answers and these batches: a log, the calls that failed, and what is tallied. -/
structure Going (load : LoadId) (table : String) (about : FileMeta) (answers : List Bool) (batches : List JudgedBatch)
    (log : List Event) (errors : List LoadError) (tally : Tally) : Prop where
  answers : log.filterMap Event.answer? = answers
  staged : Staged load table (toStage batches) (log.filterMap Event.call?)
  records : log.filterMap Event.record? = []
  errors : (log.filterMap Event.call?).filterMap Call.error? = errors
  tally : tally = .ofBatches about batches

namespace Going

variable {load : LoadId} {table : String} {about : FileMeta} {answers : List Bool} {batches : List JudgedBatch}
  {log : List Event} {errors : List LoadError} {tally : Tally}

theorem start : Going load table about [] [] [] [] (.start about) := ⟨rfl, .nil, rfl, rfl, rfl⟩

theorem asked (h : Going load table about answers batches log errors tally) (stop : Bool) :
    Going load table about (answers ++ [stop]) batches (log ++ [.asked stop]) errors tally := by
  have calls : (log ++ [Event.asked stop]).filterMap Event.call? = log.filterMap Event.call? := by simp [Event.call?]
  refine ⟨?_, calls ▸ h.staged, ?_, calls ▸ h.errors, h.tally⟩
  · simp [h.answers, Event.answer?]
  · simp [h.records, Event.record?]

theorem tally_push (h : Going load table about answers batches log errors tally) (batch : JudgedBatch) :
    tally.push batch.summary batch.outcomes = .ofBatches about (batches ++ [batch]) := by
  rw [h.tally, Tally.ofBatches_append]

/-- A batch whose rows are not staged. -/
theorem skipped (h : Going load table about answers batches log errors tally) {batch : JudgedBatch}
    (skip : (batch.validRows.isEmpty || !errors.isEmpty) = true) :
    Going load table about answers (batches ++ [batch]) log errors (tally.push batch.summary batch.outcomes) := by
  refine ⟨h.answers, ?_, h.records, h.errors, h.tally_push batch⟩
  rw [toStage_append]
  cases empty : batch.validRows.isEmpty with
  | true => simpa using h.staged
  | false =>
    have failed : errors ≠ [] := by simpa [empty] using skip
    exact h.staged.skip (h.errors ▸ failed) batch.validRows

/-- A batch whose rows are staged. -/
theorem called (h : Going load table about answers batches log errors tally) {batch : JudgedBatch}
    (goes : (batch.validRows.isEmpty || !errors.isEmpty) = false) (answer : Except LoadError Nat) :
    Going load table about answers (batches ++ [batch]) (log ++ [.called (.stage load table batch.validRows answer)])
      (errors ++ (LoadError.ofAnswer? answer).toList) (tally.push batch.summary batch.outcomes) := by
  obtain ⟨some, well⟩ : batch.validRows.isEmpty = false ∧ errors = [] := by simpa using goes
  have calls : (log ++ [Event.called (.stage load table batch.validRows answer)]).filterMap Event.call? =
      log.filterMap Event.call? ++ [.stage load table batch.validRows answer] := by simp [Event.call?]
  refine ⟨?_, ?_, ?_, ?_, h.tally_push batch⟩
  · simp [h.answers, Event.answer?]
  · rw [toStage_append, calls, some]
    exact h.staged.append (h.errors.trans well) batch.validRows answer
  · simp [h.records, Event.record?]
  · rw [calls, List.filterMap_append, h.errors]
    cases answer <;> rfl

end Going

variable {σ : Type}

/-- What a file being loaded holds after these answers and these batches. -/
def Loading.IsGoing (load : LoadId) (table : String) (about : FileMeta) (answers : List Bool)
    (batches : List JudgedBatch) (l : Loading (List Event × σ)) : Prop :=
  Going load table about answers batches l.around.1 l.errors l.tally

namespace Loading.IsGoing

variable {s : Surroundings σ} {load : LoadId} {table : String} {about : FileMeta} {answers : List Bool}
  {batches : List JudgedBatch} {l : Loading (List Event × σ)}

theorem asking (h : l.IsGoing load table about answers batches) :
    (l.asking s.logged).2.IsGoing load table about (answers ++ [(l.asking s.logged).1]) batches :=
  Going.asked h (l.asking s.logged).1

theorem take (h : l.IsGoing load table about answers batches) (batch : JudgedBatch) :
    (l.take s.logged.loader load table batch).IsGoing load table about answers (batches ++ [batch]) := by
  unfold Loading.take
  cases skip : (batch.validRows.isEmpty || !l.errors.isEmpty) with
  | true =>
    rw [stage_of_skipped skip]
    exact Going.skipped h skip
  | false =>
    cases answered : s.loader.stage load table batch.validRows l.around.2 with
    | mk answer around =>
      rw [stage_of_answer skip (Surroundings.logged_stage answered)]
      exact Going.called h skip answer

end Loading.IsGoing

/-! ## Settling -/

/-- Settling adds the calls that settle the load to the log, and those that failed to the errors. -/
theorem Loading.settle_calls (s : Surroundings σ) (load : LoadId) (table : String) (l : Loading (List Event × σ))
    (status : FileStatus) :
    let settled := l.settle s.logged.loader load table status
    ∃ calls, Settled load table (status == .completed && l.errors.isEmpty) calls settled.1 ∧
      settled.2.around.1 = l.around.1 ++ calls.map .called ∧
      settled.2.errors = l.errors ++ calls.filterMap Call.error? := by
  cases commits : (status == .completed && l.errors.isEmpty) with
  | false =>
    cases answered : s.loader.abort load table l.around.2 with
    | mk answer around =>
      rw [settle_of_not_committed commits, abort_of_answer (Surroundings.logged_abort answered)]
      refine ⟨[.abort load table answer], .aborted answer, rfl, ?_⟩
      cases answer <;> rfl
  | true =>
    cases answered : s.loader.commit load table l.around.2 with
    | mk answer around =>
      cases answer with
      | ok count =>
        rw [settle_of_committed commits (Surroundings.logged_commit answered)]
        exact ⟨[.commit load table (.ok count)], .committed count, rfl, (List.append_nil _).symm⟩
      | error e =>
        obtain ⟨-, well⟩ : status = .completed ∧ l.errors = [] := by simpa using commits
        cases last : s.loader.abort load table around with
        | mk answer around' =>
          rw [settle_of_refused commits (Surroundings.logged_commit answered),
            abort_of_answer (Surroundings.logged_abort last)]
          refine ⟨[.commit load table (.error e), .abort load table answer], .refused e answer, ?_, ?_⟩
          · exact List.append_assoc _ _ _
          · rw [well]
            cases answer <;> rfl

/-! ## The same answers again -/

/--
Where answers are given from a list, what has been answered and what is still to be answered begin with the list,
and what is tallied is told by the batches.
-/
structure Loading.Replays {τ : Type} (answers : List Bool) (about : FileMeta) (given : List Bool)
    (batches : List JudgedBatch) (l : Loading (τ × List Bool)) : Prop where
  agrees : answers <+: given ++ l.around.2
  tally : l.tally = .ofBatches about batches

namespace Loading.Replays

variable {τ : Type} {loader : Loader τ} {keep : AuditRecord → τ → Except String Unit × τ}
  {pool : Nat → τ → Except String Unit} {load : LoadId} {table : String} {answers given : List Bool} {about : FileMeta}
  {batches : List JudgedBatch} {l : Loading (τ × List Bool)}

theorem asking (h : l.Replays answers about given batches) :
    (l.asking (.replaying loader keep pool)).2.Replays answers about
      (given ++ [(l.asking (.replaying loader keep pool)).1]) batches := by
  refine ⟨?_, h.tally⟩
  have agrees := h.agrees
  change answers <+: given ++ [l.around.2.headD false] ++ l.around.2.tail
  rw [List.append_assoc]
  cases left : l.around.2 with
  | nil =>
    rw [left, List.append_nil] at agrees
    exact agrees.trans (List.prefix_append given _)
  | cons answer rest =>
    rw [left] at agrees
    exact agrees

/-- Taking in a batch asks nothing. -/
theorem around_take (batch : JudgedBatch) :
    (l.take (Surroundings.replaying loader keep pool).loader load table batch).around.2 = l.around.2 := by
  unfold Loading.take
  cases skip : (batch.validRows.isEmpty || !l.errors.isEmpty) with
  | true => rw [stage_of_skipped skip]
  | false =>
    have answered : (Surroundings.replaying loader keep pool).loader.stage load table batch.validRows l.around =
        ((loader.stage load table batch.validRows l.around.1).1,
          ((loader.stage load table batch.validRows l.around.1).2, l.around.2)) := rfl
    rw [stage_of_answer skip answered]

theorem take (h : l.Replays answers about given batches) (batch : JudgedBatch) :
    (l.take (Surroundings.replaying loader keep pool).loader load table batch).Replays answers about given
      (batches ++ [batch]) := by
  constructor
  · rw [around_take]
    exact h.agrees
  · rw [tally_take, h.tally, Tally.ofBatches_append]

end Loading.Replays

/-! ## A whole file -/

namespace Gate

variable (g : Gate) (source : String) (file : Admitted) (schema : Schema) (plan : RulePlan) (now : Timestamp)

/-- Driving the batches of a file is a run of them, and the log tells of it. -/
theorem driven_going (s : Surroundings σ) (state : GateState σ) :
    let run := g.driven s.logged source file schema plan now (state.withLog [])
    ∃ answers batches, (g.opened file schema plan now).Run answers batches run.1 ∧
      run.2.IsGoing state.nextLoad file.recordType.table (about source file plan) answers batches := by
  intro run
  have start : Loading.IsGoing state.nextLoad file.recordType.table (about source file plan) [] []
      ⟨.start (about source file plan), [], (state.withLog []).around⟩ := Going.start
  refine Batches.drive_run ?_ ?_ start
  · intro answers batches l h
    exact h.asking
  · intro answers batches l batch h
    exact h.take batch

/-- A file whose run is replayed gets the response that its batches tell, whatever the warehouse answers. -/
theorem judge_replaying {answers : List Bool} {batches : List JudgedBatch} {last : Batches}
    (run : (g.opened file schema plan now).Run answers batches last) {τ : Type} (loader : Loader τ)
    (keep : AuditRecord → τ → Except String Unit × τ) (pool : Nat → τ → Except String Unit) (cache : RuleCache)
    (load : LoadId) (other : τ) :
    (g.judge (.replaying loader keep pool) source file schema plan now ⟨cache, load, (other, answers)⟩).1.response =
      responseTo (about source file plan) batches last := by
  let replayed := g.driven (.replaying loader keep pool) source file schema plan now ⟨cache, load, (other, answers)⟩
  have found : ∃ given done, (g.opened file schema plan now).Run given done replayed.1 ∧
      replayed.2.Replays answers (about source file plan) given done := by
    have start : Loading.Replays answers (about source file plan) [] []
        ⟨.start (about source file plan), [], (other, answers)⟩ := ⟨List.prefix_rfl, rfl⟩
    refine Batches.drive_run ?_ ?_ start
    · intro given done l h
      exact h.asking
    · intro given done l batch h
      exact h.take batch
  obtain ⟨given, done, run', replays⟩ := found
  -- Both lists of answers begin one list, so neither run was answered otherwise than the other.
  obtain ⟨rfl, rfl, ended⟩ :=
    run.unique run' (List.prefix_or_prefix_of_prefix replays.agrees (List.prefix_append given _))
  rw [response_judge, responseTo, ended, ← replays.tally]

/--
**The calls on a warehouse while a file is judged.** What happens is that the batches are driven, the load is
settled and the audit record is handed over, in this order, and the course of the load is as it should be.
-/
theorem judge_course (s : Surroundings σ) (state : GateState σ) :
    let judged := g.judge s.logged source file schema plan now (state.withLog [])
    ∃ going settling kept batches last,
      judged.2.around.1 = going ++ settling.map .called ++ [.kept judged.1.audit kept] ∧
      LoadCourse (g.opened file schema plan now) (about source file plan) state.nextLoad file.recordType.table going
        settling batches last judged.1 := by
  intro judged
  let driven := g.driven s.logged source file schema plan now (state.withLog [])
  let settled := g.settled s.logged source file schema plan now (state.withLog [])
  obtain ⟨answers, batches, run, going⟩ := g.driven_going source file schema plan now s state
  obtain ⟨settling, settles, log, errors⟩ :=
    driven.2.settle_calls s state.nextLoad file.recordType.table (statusOf driven.1)
  have concluded : judged.2.around.1 =
      settled.2.around.1 ++ [.kept judged.1.audit (s.keep judged.1.audit settled.2.around.2).1] := rfl
  refine ⟨driven.2.around.1, settling, _, batches, driven.1, concluded.trans (congrArg (· ++ [_]) log), ?_⟩
  constructor
  · exact going.answers.symm ▸ run
  · exact going.staged
  · exact going.records
  · rw [going.errors]
    exact settles
  · rw [List.filterMap_append, going.errors]
    exact errors
  · rw [response_judge, going.tally]
    rfl

/-! ## Requests -/

/--
**A file is loaded in one way, whatever the warehouse answers.** Take any surroundings, and any request for a file
that is admitted under a consistent schema, with a pool of workers if it calls for one. While the batches are driven,
all their valid rows are staged, in the order of the batches and under one load, until a call fails. Then the load is
settled: it is committed exactly if the response is that the file is completed and no call has failed, and aborted
exactly if it was not committed. After that nothing but the audit record is handed over, and the next load has another
number. The number of loaded rows is the answer of the commit, or none; the errors are the calls that failed, in order.

The response is told by the batches alone. In any other surroundings whose answers to the question whether to stop
are the same, such as those in which nothing ever fails, it is the same.
-/
theorem process_calls (g : Gate) (s : Surroundings σ) (repository : Repository) (r : Request)
    {content : Except OpenError Bytes} (now : Timestamp) (state : GateState σ) {file : Admitted}
    (admitted : r.admission content = .ok file)
    (consistent : (g.schemaFor file.recordType).consistent? g.engine = .ok ())
    (ready : g.HasPool s repository r content state) :
    let schema := g.schemaFor file.recordType
    let plan := (RulePlan.build (repository.rulesFor file.recordType) schema state.cache).1
    ∃ outcome after going settling kept batches last,
      let log := going ++ settling.map .called ++ [.kept outcome.audit kept]
      g.process s.logged repository r content now (state.withLog []) = (.ok outcome, after.withLog log) ∧
      g.process s repository r content now state = (.ok outcome, after) ∧ after.nextLoad = state.nextLoad + 1 ∧
      LoadCourse (g.opened file schema plan now) (about r.source file plan) state.nextLoad file.recordType.table going
        settling batches last outcome ∧
      ∀ (τ : Type) (loader : Loader τ) (keep : AuditRecord → τ → Except String Unit × τ)
        (pool : Nat → τ → Except String Unit) (load : LoadId) (other : τ),
        let start : GateState (τ × List Bool) := ⟨state.cache, load, (other, going.filterMap Event.answer?)⟩
        g.HasPool (.replaying loader keep pool) repository r content start →
          ∃ outcome' after', g.process (.replaying loader keep pool) repository r content now start =
              (.ok outcome', after') ∧
            outcome'.response = outcome.response := by
  intro schema plan
  let built := RulePlan.build (repository.rulesFor file.recordType) schema state.cache
  let judged := g.judge s.logged r.source file schema plan now (GateState.withLog { state with cache := built.2 } [])
  obtain ⟨going, settling, kept, batches, last, log, course⟩ :=
    judge_course g r.source file schema plan now s { state with cache := built.2 }
  have logged : g.process s.logged repository r content now (state.withLog []) = (.ok judged.1, judged.2) :=
    process_of_admitted admitted consistent ready
  have unlogged : g.process s repository r content now state = (.ok judged.1, judged.2.unlogged) := by
    have plain := process_unlogged g s now repository r content (state.withLog [])
    rw [logged] at plain
    exact plain
  refine ⟨judged.1, judged.2.unlogged, going, settling, kept, batches, last, ?_, unlogged, rfl, course, ?_⟩
  · rw [logged, ← log]
    rfl
  · intro τ loader keep pool load other start ready'
    refine ⟨_, _, process_of_admitted admitted consistent ready', ?_⟩
    exact (judge_replaying g r.source file schema plan now course.run loader keep pool built.2 load other).trans
      course.response.symm

/-- A warehouse takes one row and refuses the next: the third is not offered, and the load is aborted. -/
theorem process_calls_refused :
    let schema : Schema := ⟨.sales, [⟨"amount", .decimal, true, []⟩], .empty⟩
    let gate : Gate := ⟨{ Settings.standard with minBatch := 1, maxBatch := 1 }, rfl, [schema], .common⟩
    let request : Request := ⟨"sales.csv", some .sales, none⟩
    let input : Bytes := Text.encode "amount\n1\n2\n3\n"
    let loader : Loader Nat :=
      ⟨fun _ table rows n => (if n = 0 then .ok rows.length else .error ⟨table, "full", true⟩, n + 1),
        fun _ _ n => (.ok 0, n + 1), fun _ _ n => (.ok (), n + 1)⟩
    let around : Surroundings Nat :=
      ⟨loader, fun n => (false, n), fun _ n => (.error "no space", n), fun _ _ => .ok ()⟩
    let state : GateState Nat := ⟨.new .standard RuleCache.spread, 7, 0⟩
    request.admission (.ok input) = .ok ⟨.sales, .csv, input⟩ ∧
      (gate.schemaFor .sales).consistent? gate.engine = .ok () ∧
      gate.HasPool around (.ofRules []) request (.ok input) state ∧
      ∃ outcome after, gate.process around (.ofRules []) request (.ok input) (.midnight .epoch) state =
          (.ok outcome, after) ∧
        outcome.response.status = .completed ∧ outcome.response.validRows = 3 ∧ outcome.loadedRows = 0 ∧
        outcome.loadErrors = [⟨RecordType.sales.table, "full", true⟩] ∧ after.around = 3 ∧ after.nextLoad = 8 := by
  intro schema gate request input loader around state
  have admitted : request.admission (.ok input) = .ok ⟨.sales, .csv, input⟩ := by decide +kernel
  have consistent : (gate.schemaFor .sales).consistent? gate.engine = .ok () := rfl
  have ready : gate.HasPool around (.ofRules []) request (.ok input) state := .of_all fun _ _ => rfl
  have evaluated : ((gate.process around (.ofRules []) request (.ok input) (.midnight .epoch) state).1.toOption.any
      fun o => o.response.status = .completed ∧ o.response.validRows = 3 ∧ o.loadedRows = 0 ∧
        o.loadErrors = [⟨RecordType.sales.table, "full", true⟩]) = true := by decide +kernel
  have called : (gate.process around (.ofRules []) request (.ok input) (.midnight .epoch) state).2.around = 3 := by
    decide +kernel
  obtain ⟨outcome, after, -, -, -, -, -, -, processed, nextLoad, -⟩ :=
    process_calls gate around (.ofRules []) request (.midnight .epoch) state admitted consistent ready
  rw [processed] at evaluated called
  obtain ⟨completed, valid, none, errors⟩ := of_decide_eq_true evaluated
  exact ⟨admitted, consistent, ready, outcome, after, processed, completed, valid, none, errors, called, nextLoad⟩

end Gate

end RecordGate
