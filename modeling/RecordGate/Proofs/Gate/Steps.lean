import RecordGate.Gate.Basic

/-!
# Judging and loading step by step

A file is judged in three steps: its batches are driven to their end (`Gate.driven`), its load is settled
(`Gate.settled`), and its audit record is handed over (`Gate.judge_eq`). What a step of a load does to the file being
loaded is told by the answer of the warehouse: every call that failed stands among the errors (`LoadError.ofAnswer?`).

Whether a file comes to be judged is told by four lemmas, one for each exit of the gate: `Gate.process_of_rejected`,
`Gate.process_of_inconsistent`, `Gate.process_of_noPool` and `Gate.process_of_admitted`.
-/

namespace RecordGate

/-- How a warehouse failed, if that is its answer. -/
def LoadError.ofAnswer? {α : Type} : Except LoadError α → Option LoadError
  | .ok _ => none
  | .error e => some e

namespace Loading

variable {σ : Type} {loader : Loader σ} {load : LoadId} {table : String} {l : Loading σ} {rows : List TableRow}
  {status : FileStatus} {around : σ}

theorem stage_of_skipped (skip : (rows.isEmpty || !l.errors.isEmpty) = true) : l.stage loader load table rows = l :=
  if_pos skip

theorem stage_of_answer {answer : Except LoadError Nat} (goes : (rows.isEmpty || !l.errors.isEmpty) = false)
    (answered : loader.stage load table rows l.around = (answer, around)) :
    l.stage loader load table rows =
      { l with around := around, errors := l.errors ++ (LoadError.ofAnswer? answer).toList } := by
  rw [stage, goes, if_neg Bool.false_ne_true, answered]
  cases answer with
  | ok count => simp [LoadError.ofAnswer?]
  | error e => rfl

theorem abort_of_answer {answer : Except LoadError Unit} (answered : loader.abort load table l.around = (answer, around)) :
    l.abort loader load table =
      { l with around := around, errors := l.errors ++ (LoadError.ofAnswer? answer).toList } := by
  rw [abort, answered]
  cases answer with
  | ok => simp [LoadError.ofAnswer?]
  | error e => rfl

theorem settle_of_committed {count : Nat} (commits : (status == .completed && l.errors.isEmpty) = true)
    (answered : loader.commit load table l.around = (.ok count, around)) :
    l.settle loader load table status = (count, { l with around := around }) := by
  rw [settle, if_pos commits, answered]

/-- A load that could not be committed is aborted. -/
theorem settle_of_refused {e : LoadError} (commits : (status == .completed && l.errors.isEmpty) = true)
    (answered : loader.commit load table l.around = (.error e, around)) :
    l.settle loader load table status = (0, { l with around := around, errors := [e] }.abort loader load table) := by
  rw [settle, if_pos commits, answered]

theorem settle_of_not_committed (aborts : (status == .completed && l.errors.isEmpty) = false) :
    l.settle loader load table status = (0, l.abort loader load table) := by
  rw [settle, aborts, if_neg Bool.false_ne_true]

section

variable (loader : Loader σ) (load : LoadId) (table : String) (l : Loading σ)

theorem tally_stage (rows : List TableRow) : (l.stage loader load table rows).tally = l.tally := by
  unfold stage
  split
  · rfl
  · split <;> rfl

theorem tally_abort : (l.abort loader load table).tally = l.tally := by
  unfold abort
  split <;> rfl

/-- Settling a load does not change what is tallied. -/
theorem tally_settle (status : FileStatus) : (l.settle loader load table status).2.tally = l.tally := by
  unfold settle
  split
  · split
    · rfl
    · exact tally_abort ..
  · exact tally_abort ..

/-- A batch is tallied whatever becomes of its rows. -/
theorem tally_take (batch : JudgedBatch) :
    (l.take loader load table batch).tally = l.tally.push batch.summary batch.outcomes :=
  congrArg (·.push batch.summary batch.outcomes) (tally_stage loader load table l batch.validRows)

end

/-- Asks whether to stop. -/
def asking (s : Surroundings σ) (l : Loading σ) : Bool × Loading σ :=
  ((s.cancelled l.around).1, { l with around := (s.cancelled l.around).2 })

end Loading

namespace Gate

variable {σ : Type} (g : Gate) (s : Surroundings σ) (source : String) (file : Admitted) (schema : Schema)
  (plan : RulePlan) (now : Timestamp) (state : GateState σ)

/-- What is said of a file that is judged under a plan, beside its rows. -/
def about (source : String) (file : Admitted) (plan : RulePlan) : FileMeta :=
  ⟨source, some file.recordType, plan.fingerprint, plan.warnings⟩

/-- A file before its first batch. -/
def opened : Batches :=
  .start (g.judgeWith schema plan)
    (batchSize file.content.length g.settings.minBatch g.settings.maxBatch) (g.settings.processingDate now.date)
    (file.format.rows file.content)

/-- A file whose batches have been driven to their end. -/
def driven : Batches × Loading σ :=
  (g.opened file schema plan now).drive (Loading.asking s) (Loading.take s.loader state.nextLoad file.recordType.table)
    ⟨.start (about source file plan), [], state.around⟩

/-- A file whose load is settled after that, with the number of the rows that are loaded. -/
def settled : Nat × Loading σ :=
  let run := g.driven s source file schema plan now state
  run.2.settle s.loader state.nextLoad file.recordType.table (statusOf run.1)

/-- A file is driven to its end, settled and concluded. -/
theorem judge_eq :
    g.judge s source file schema plan now state =
      let last := (g.driven s source file schema plan now state).1
      let settled := g.settled s source file schema plan now state
      conclude s now (settled.2.tally.close (statusOf last) (last.fileError?.map FileError.text)) settled.1
        settled.2.errors { state with nextLoad := state.nextLoad + 1, around := settled.2.around } := rfl

/-- The response to a file is told when its batches have been driven to their end. -/
theorem response_judge :
    let run := g.driven s source file schema plan now state
    (g.judge s source file schema plan now state).1.response =
      run.2.tally.close (statusOf run.1) (run.1.fileError?.map FileError.text) := by
  intro run
  have tally : (g.settled s source file schema plan now state).2.tally = run.2.tally :=
    Loading.tally_settle _ _ _ run.2 (statusOf run.1)
  rw [judge_eq, ← tally]
  rfl

theorem statusOf_eq_failed {b : Batches} : statusOf b = .failed ↔ ∃ e, b.fileError? = some e := by
  unfold statusOf
  cases b.fileError? with
  | some e => simp
  | none => cases b.cancelled <;> simp

/-! ## Requests -/

/-- What the rows of a record type are judged by. -/
def judgeFor (g : Gate) (repository : Repository) (cache : RuleCache) (t : RecordType) : Judge :=
  g.judgeWith (g.schemaFor t) (RulePlan.build (repository.rulesFor t) (g.schemaFor t) cache).1

/-- The pool of workers that a request calls for can be built, if it calls for one. -/
def HasPool (g : Gate) (s : Surroundings σ) (repository : Repository) (r : Request) (content : Except OpenError Bytes)
    (state : GateState σ) : Prop :=
  ∀ file, r.admission content = .ok file →
    (g.judgeFor repository state.cache file.recordType).isParallel = true →
    s.pool g.settings.workers state.around = .ok ()

section

variable {g : Gate} {s : Surroundings σ} {repository : Repository} {r : Request} {content : Except OpenError Bytes}
  {now : Timestamp} {state : GateState σ} {file : Admitted}

/-- Where every pool can be built there is the one that is called for. -/
theorem HasPool.of_all (h : ∀ workers around, s.pool workers around = .ok ()) :
    g.HasPool s repository r content state := fun _ _ _ => h ..

/-- Where the pool is lacking, one is called for and cannot be built. -/
theorem refused_of_not_hasPool (h : r.admission content = .ok file)
    (lacking : ¬g.HasPool s repository r content state) :
    (g.judgeFor repository state.cache file.recordType).isParallel = true ∧
      ∃ reason, s.pool g.settings.workers state.around = .error reason := by
  cases answer : s.pool g.settings.workers state.around with
  | ok _ => exact absurd (fun _ _ _ => answer) lacking
  | error reason =>
    refine ⟨Decidable.byContradiction fun serial => lacking fun other admitted parallel => ?_, reason, rfl⟩
    cases h.symm.trans admitted
    exact absurd parallel serial

/-- A file that is rejected changes nothing but what keeps its audit record. -/
theorem process_of_rejected {t : Option RecordType} {why : Rejection} (h : r.admission content = .error (t, why)) :
    let response := rejected repository r.source t why
    g.process s repository r content now state =
      (.ok ⟨response, .of response now, 0, []⟩,
        { state with around := (s.keep (.of response now) state.around).2 }) := by
  intro response
  rw [process, h]
  rfl

/-- A file whose schema contradicts itself is not answered, and nothing changes. -/
theorem process_of_inconsistent {fault : Schema.Fault} (h : r.admission content = .ok file)
    (inconsistent : (g.schemaFor file.recordType).consistent? g.engine = .error fault) :
    g.process s repository r content now state = (.error (.inconsistent fault), state) := by
  rw [process, h]
  simp only [inconsistent]

/-- A file that lacks its pool of workers is not answered, and nothing changes but the cache. -/
theorem process_of_noPool {reason : String} (h : r.admission content = .ok file)
    (consistent : (g.schemaFor file.recordType).consistent? g.engine = .ok ())
    (parallel : (g.judgeFor repository state.cache file.recordType).isParallel = true)
    (refused : s.pool g.settings.workers state.around = .error reason) :
    let built := RulePlan.build (repository.rulesFor file.recordType) (g.schemaFor file.recordType) state.cache
    g.process s repository r content now state = (.error (.noPool reason), { state with cache := built.2 }) := by
  intro built
  have pool : g.buildPool s (g.schemaFor file.recordType) built.1 state.around = .error reason :=
    (if_pos parallel).trans refused
  rw [process, h]
  simp only [consistent]
  rw [pool]

/-- A file that is admitted is judged under the plan of the rules for its record type. -/
theorem process_of_admitted (h : r.admission content = .ok file)
    (consistent : (g.schemaFor file.recordType).consistent? g.engine = .ok ())
    (pool : g.HasPool s repository r content state) :
    let built := RulePlan.build (repository.rulesFor file.recordType) (g.schemaFor file.recordType) state.cache
    let judged := g.judge s r.source file (g.schemaFor file.recordType) built.1 now { state with cache := built.2 }
    g.process s repository r content now state = (.ok judged.1, judged.2) := by
  intro built judged
  have ready : g.buildPool s (g.schemaFor file.recordType) built.1 state.around = .ok () := by
    unfold buildPool
    split
    · next parallel => exact pool file h parallel
    · rfl
  rw [process, h]
  simp only [consistent]
  rw [ready]

end

end Gate

end RecordGate
