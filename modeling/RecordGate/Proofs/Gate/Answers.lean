import RecordGate.Proofs.Gate.Calls

/-!
# Every file is answered, unless its schema contradicts itself or a pool cannot be built

A file that is handed in is rejected, or judged and loaded. Either way it gets a response, and one audit record of
it is handed over (`FileOutcome.Answers`). There are two ways out (`Gate.Unanswered`). When the schema of its record
type contradicts itself, which only a schema that stands in for the usual one can do, a file that would be judged has
neither response nor record, and the same holds when the pool of workers that it calls for cannot be built. There is no
other way out (`Gate.process_answers`).
-/

namespace RecordGate

/-- What is known of a file answers its request, and its audit record was handed over once. -/
structure FileOutcome.Answers (outcome : FileOutcome) (r : Request) (now : Timestamp) (log : List Event) : Prop where
  source : outcome.response.source = r.source
  recordType : outcome.response.recordType = r.recordType?
  /-- A response says why a file failed. -/
  failure : outcome.response.status = .failed ↔ outcome.response.fileError.isSome
  audit : outcome.audit = .of outcome.response now
  audited : log.filterMap Event.record? = [outcome.audit]

/-- The course of a load leads to an answer. -/
theorem LoadCourse.answers {opened : Batches} {r : Request} {file : Admitted} {plan : RulePlan} {load : LoadId}
    {table : String} {going : List Event} {settling : List Call} {batches : List JudgedBatch} {last : Batches}
    {outcome : FileOutcome}
    (h : LoadCourse opened (Gate.about r.source file plan) load table going settling batches last outcome)
    (known : r.recordType? = some file.recordType) {now : Timestamp} (audit : outcome.audit = .of outcome.response now)
    (kept : Except String Unit) :
    outcome.Answers r now (going ++ settling.map .called ++ [.kept outcome.audit kept]) := by
  have about := Tally.about_ofBatches (Gate.about r.source file plan) batches
  constructor
  · rw [h.response]
    exact congrArg FileMeta.source about
  · rw [h.response, known]
    exact congrArg FileMeta.recordType about
  · rw [h.response]
    change Gate.statusOf last = .failed ↔ (last.fileError?.map FileError.text).isSome
    rw [Gate.statusOf_eq_failed, Option.isSome_map, Option.isSome_iff_exists]
  · exact audit
  · rw [List.filterMap_append, List.filterMap_append, h.unaudited, Event.filterMap_record?_called settling]
    rfl

namespace Gate

variable {σ : Type} {g : Gate} {s : Surroundings σ} {repository : Repository} {r : Request}
  {content : Except OpenError Bytes} {now : Timestamp} {state : GateState σ}

/-- Why a file that is not rejected gets no outcome. -/
inductive Unanswered (g : Gate) (s : Surroundings σ) (repository : Repository) (r : Request)
    (content : Except OpenError Bytes) (state : GateState σ) : Failure → Prop
  /-- The schema of its record type contradicts itself. -/
  | inconsistent {file : Admitted} {fault : Schema.Fault} (admitted : r.admission content = .ok file)
      (faulty : (g.schemaFor file.recordType).consistent? g.engine = .error fault) :
      g.Unanswered s repository r content state (.inconsistent fault)
  /-- Its rows are to be judged side by side, and the pool of workers for that cannot be built. -/
  | noPool {file : Admitted} {reason : String} (admitted : r.admission content = .ok file)
      (consistent : (g.schemaFor file.recordType).consistent? g.engine = .ok ())
      (parallel : (g.judgeFor repository state.cache file.recordType).isParallel = true)
      (refused : s.pool g.settings.workers state.around = .error reason) :
      g.Unanswered s repository r content state (.noPool reason)

/-- A log does not show in whether a file is answered. -/
theorem Unanswered.logged {why : Failure} (h : g.Unanswered s repository r content state why) (log : List Event) :
    g.Unanswered s.logged repository r content (state.withLog log) why := by
  cases h with
  | inconsistent admitted faulty => exact .inconsistent admitted faulty
  | noPool admitted consistent parallel refused => exact .noPool admitted consistent parallel refused

end Gate

end RecordGate
