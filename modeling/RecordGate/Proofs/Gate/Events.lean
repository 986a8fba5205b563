import RecordGate.Proofs.Batch.Runs
import RecordGate.Proofs.Gate.Settling
import RecordGate.Proofs.Gate.Steps

/-!
# What happens around a gate

Surroundings can be made to keep a log of everything that is asked of them, with their answers
(`Surroundings.logged`). The log is only written: a gate with it does what it does without
(`Gate.process_unlogged`). So what is proved of the log of any surroundings is proved of what the gate does to them.

Main definitions: `Call`, `Event`, `Surroundings.logged`, `Surroundings.replaying`.
-/

namespace RecordGate

/-- A call on a warehouse and its answer. -/
inductive Call where
  | stage (load : LoadId) (table : String) (rows : List TableRow) (answer : Except LoadError Nat)
  | commit (load : LoadId) (table : String) (answer : Except LoadError Nat)
  | abort (load : LoadId) (table : String) (answer : Except LoadError Unit)

/-- How a call failed, if it did. -/
def Call.error? : Call → Option LoadError
  | .stage _ _ _ answer => LoadError.ofAnswer? answer
  | .commit _ _ answer => LoadError.ofAnswer? answer
  | .abort _ _ answer => LoadError.ofAnswer? answer

/-- What a gate asks of its surroundings, with the answer. -/
inductive Event where
  /-- Whether to stop. -/
  | asked (stop : Bool)
  | called (call : Call)
  /-- An audit record was handed over. -/
  | kept (record : AuditRecord) (answer : Except String Unit)

namespace Event

def answer? : Event → Option Bool
  | asked stop => some stop
  | _ => none

def call? : Event → Option Call
  | called call => some call
  | _ => none

def record? : Event → Option AuditRecord
  | kept record _ => some record
  | _ => none

/-- No audit record is handed over by calls. -/
theorem filterMap_record?_called (calls : List Call) : (calls.map called).filterMap record? = [] := by
  induction calls with
  | nil => rfl
  | cons call rest ih => exact ih

end Event

namespace Surroundings

variable {σ τ : Type}

/-- The surroundings, with a log of what happens. -/
def logged (s : Surroundings σ) : Surroundings (List Event × σ) where
  loader := {
    stage load table rows x :=
      let answered := s.loader.stage load table rows x.2
      (answered.1, (x.1 ++ [.called (.stage load table rows answered.1)], answered.2))
    commit load table x :=
      let answered := s.loader.commit load table x.2
      (answered.1, (x.1 ++ [.called (.commit load table answered.1)], answered.2))
    abort load table x :=
      let answered := s.loader.abort load table x.2
      (answered.1, (x.1 ++ [.called (.abort load table answered.1)], answered.2)) }
  cancelled x :=
    let answered := s.cancelled x.2
    (answered.1, (x.1 ++ [.asked answered.1], answered.2))
  keep record x :=
    let answered := s.keep record x.2
    (answered.1, (x.1 ++ [.kept record answered.1], answered.2))
  pool workers x := s.pool workers x.2

section Logged

variable {s : Surroundings σ} {load : LoadId} {table : String} {rows : List TableRow} {x : List Event × σ} {around : σ}

theorem logged_stage {answer : Except LoadError Nat} (answered : s.loader.stage load table rows x.2 = (answer, around)) :
    s.logged.loader.stage load table rows x = (answer, (x.1 ++ [.called (.stage load table rows answer)], around)) := by
  simp only [logged, answered]

theorem logged_commit {answer : Except LoadError Nat} (answered : s.loader.commit load table x.2 = (answer, around)) :
    s.logged.loader.commit load table x = (answer, (x.1 ++ [.called (.commit load table answer)], around)) := by
  simp only [logged, answered]

theorem logged_abort {answer : Except LoadError Unit} (answered : s.loader.abort load table x.2 = (answer, around)) :
    s.logged.loader.abort load table x = (answer, (x.1 ++ [.called (.abort load table answer)], around)) := by
  simp only [logged, answered]

end Logged

/-- Surroundings that give the answers of a list when they are asked whether to stop, and then say no. -/
def replaying (loader : Loader τ) (keep : AuditRecord → τ → Except String Unit × τ)
    (pool : Nat → τ → Except String Unit) : Surroundings (τ × List Bool) where
  loader := loader.onFirst
  cancelled x := (x.2.headD false, (x.1, x.2.tail))
  keep record x := ((keep record x.1).1, ((keep record x.1).2, x.2))
  pool workers x := pool workers x.1

end Surroundings

/-! ## The log is only written -/

variable {σ : Type}

/-- A file being loaded, without the log. -/
def Loading.unlogged (l : Loading (List Event × σ)) : Loading σ := ⟨l.tally, l.errors, l.around.2⟩

/-- The state of a gate, without the log. -/
def GateState.unlogged (state : GateState (List Event × σ)) : GateState σ :=
  ⟨state.cache, state.nextLoad, state.around.2⟩

/-- The state of a gate, with a log. -/
def GateState.withLog (state : GateState σ) (log : List Event) : GateState (List Event × σ) :=
  ⟨state.cache, state.nextLoad, (log, state.around)⟩

namespace Loading

variable (s : Surroundings σ) (load : LoadId) (table : String) (l : Loading (List Event × σ))

theorem unlogged_stage (rows : List TableRow) :
    l.unlogged.stage s.loader load table rows = (l.stage s.logged.loader load table rows).unlogged := by
  cases skip : (rows.isEmpty || !l.errors.isEmpty) with
  | true => rw [stage_of_skipped skip, stage_of_skipped (l := l.unlogged) skip]
  | false =>
    cases answered : s.loader.stage load table rows l.around.2 with
    | mk answer around =>
      rw [stage_of_answer skip (Surroundings.logged_stage answered), stage_of_answer (l := l.unlogged) skip answered]
      rfl

theorem unlogged_take (batch : JudgedBatch) :
    l.unlogged.take s.loader load table batch = (l.take s.logged.loader load table batch).unlogged := by
  rw [take, unlogged_stage]
  rfl

theorem unlogged_abort : l.unlogged.abort s.loader load table = (l.abort s.logged.loader load table).unlogged := by
  cases answered : s.loader.abort load table l.around.2 with
  | mk answer around =>
    rw [abort_of_answer (Surroundings.logged_abort answered), abort_of_answer (l := l.unlogged) answered]
    rfl

theorem unlogged_settle (status : FileStatus) :
    l.unlogged.settle s.loader load table status =
      ((l.settle s.logged.loader load table status).1, (l.settle s.logged.loader load table status).2.unlogged) := by
  cases commits : (status == .completed && l.errors.isEmpty) with
  | false =>
    rw [settle_of_not_committed commits, settle_of_not_committed (l := l.unlogged) commits, unlogged_abort]
  | true =>
    cases answered : s.loader.commit load table l.around.2 with
    | mk answer around =>
      cases answer with
      | ok count =>
        rw [settle_of_committed commits (Surroundings.logged_commit answered),
          settle_of_committed (l := l.unlogged) commits answered]
        rfl
      | error e =>
        rw [settle_of_refused commits (Surroundings.logged_commit answered),
          settle_of_refused (l := l.unlogged) commits answered, ← unlogged_abort]
        rfl

end Loading

namespace Gate

variable (g : Gate) (s : Surroundings σ) (now : Timestamp)

/-- Files are driven alike with a log and without. -/
theorem driven_unlogged (source : String) (file : Admitted) (schema : Schema) (plan : RulePlan)
    (state : GateState (List Event × σ)) :
    let run := g.driven s.logged source file schema plan now state
    g.driven s source file schema plan now state.unlogged = (run.1, run.2.unlogged) := by
  intro run
  have asked (l : Loading (List Event × σ)) :
      l.unlogged.asking s = ((l.asking s.logged).1, (l.asking s.logged).2.unlogged) := rfl
  have taken (batch : JudgedBatch) (l : Loading (List Event × σ)) :=
    Loading.unlogged_take s state.nextLoad file.recordType.table l batch
  exact Batches.drive_view Loading.unlogged asked taken (g.opened file schema plan now)
    ⟨.start (about source file plan), [], state.around⟩

/-- Loads are settled alike with a log and without. -/
theorem settled_unlogged (source : String) (file : Admitted) (schema : Schema) (plan : RulePlan)
    (state : GateState (List Event × σ)) :
    let settled := g.settled s.logged source file schema plan now state
    g.settled s source file schema plan now state.unlogged = (settled.1, settled.2.unlogged) := by
  intro settled
  rw [Gate.settled, driven_unlogged]
  exact Loading.unlogged_settle s _ _ _ _

theorem judge_unlogged (source : String) (file : Admitted) (schema : Schema) (plan : RulePlan)
    (state : GateState (List Event × σ)) :
    let judged := g.judge s.logged source file schema plan now state
    g.judge s source file schema plan now state.unlogged = (judged.1, judged.2.unlogged) := by
  intro judged
  rw [judge_eq, driven_unlogged, settled_unlogged]
  rfl

/-- **A gate does with a log what it does without.** -/
theorem process_unlogged (repository : Repository) (r : Request) (content : Except OpenError Bytes)
    (state : GateState (List Event × σ)) :
    let processed := g.process s.logged repository r content now state
    g.process s repository r content now state.unlogged = (processed.1, processed.2.unlogged) := by
  intro processed
  cases admitted : r.admission content with
  | error refused =>
    obtain ⟨t, why⟩ := refused
    have logged : processed = _ := process_of_rejected admitted
    rw [logged, process_of_rejected admitted]
    rfl
  | ok file =>
    cases consistent : (g.schemaFor file.recordType).consistent? g.engine with
    | error fault =>
      have logged : processed = _ := process_of_inconsistent admitted consistent
      rw [logged, process_of_inconsistent admitted consistent]
    | ok _ =>
      -- A pool is asked for alike, as the log tells nothing of it.
      by_cases pool : g.HasPool s repository r content state.unlogged
      · have logged : processed = _ := process_of_admitted admitted consistent pool
        have judged := judge_unlogged g s now r.source file (g.schemaFor file.recordType)
          (RulePlan.build (repository.rulesFor file.recordType) (g.schemaFor file.recordType) state.cache).1
          { state with
            cache :=
              (RulePlan.build (repository.rulesFor file.recordType) (g.schemaFor file.recordType) state.cache).2 }
        rw [logged, process_of_admitted admitted consistent pool]
        exact congrArg (fun j => (Except.ok j.1, j.2)) judged
      · obtain ⟨parallel, reason, refused⟩ := refused_of_not_hasPool admitted pool
        have logged : processed = _ := process_of_noPool admitted consistent parallel refused
        rw [logged, process_of_noPool admitted consistent parallel refused]
        rfl

end Gate

end RecordGate
