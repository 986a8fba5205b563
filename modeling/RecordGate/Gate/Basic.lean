import RecordGate.Batch.Size
import RecordGate.Gate.Loading
import RecordGate.Gate.Request
import RecordGate.Response.Audit
import RecordGate.Schema.Builtin
import RecordGate.Settings.Basic

/-!
# The gate

The gate takes files in one by one. A file that is not rejected is judged batch by batch under the rules
that are stored for its record type, and its valid rows are loaded. Every file gets a response and an
audit record, unless its schema contradicts itself or the pool of workers cannot be built; whatever fails
around the gate after that, the response stays the same.

Main definitions: `Gate`, `Gate.open?`, `Gate.process`.
-/

namespace RecordGate

/-- What is around a gate, with a state of type `σ`. -/
structure Surroundings (σ : Type) where
  loader : Loader σ
  /-- Whether processing is to stop. -/
  cancelled : σ → Bool × σ
  /-- Keeps an audit record; the text says why that failed. -/
  keep : AuditRecord → σ → Except String Unit × σ
  /-- Whether a pool of so many workers can be built; the text says why not. -/
  pool : (workers : Nat) → σ → Except String Unit

/-- A gate with settings that passed their check. -/
structure Gate where
  settings : Settings
  accepted : settings.check = .ok ()
  /-- Schemas that stand in for the usual ones of their record types; of several the first. -/
  schemas : List Schema
  /-- What reads the patterns of the schemas. -/
  engine : Pattern.Engine

/-- What changes from file to file. -/
structure GateState (σ : Type) where
  cache : RuleCache
  /-- The number of the next load. -/
  nextLoad : LoadId
  around : σ

/-- What is known of a file after it has been processed. -/
structure FileOutcome where
  response : Response
  audit : AuditRecord
  /-- How many rows the warehouse committed. -/
  loadedRows : Nat
  /-- The calls on the warehouse that failed, in order. -/
  loadErrors : List LoadError
deriving DecidableEq

namespace Gate

/-- Why a file that is not rejected is not processed either. -/
inductive Failure where
  | inconsistent (fault : Schema.Fault)
  | noPool (reason : String)
deriving DecidableEq

def Failure.message : Failure → String
  | .inconsistent fault => s!"core error: invalid schema: {fault.message}"
  | .noPool reason => s!"worker pool error: {reason}"

variable {σ : Type}

/-- A gate with the given settings. -/
def open? (engine : Pattern.Engine) (settings : Settings) : Except Settings.Fault Gate :=
  match h : settings.check with
  | .ok _ => .ok ⟨settings, h, [], engine⟩
  | .error fault => .error fault

/-- Lets a schema stand in for the usual one of its record type. -/
def withSchema (g : Gate) (s : Schema) : Gate := { g with schemas := s :: g.schemas }

/-- The schema of a record type. -/
def schemaFor (g : Gate) (t : RecordType) : Schema :=
  (g.schemas.find? (·.recordType = t)).getD (Schema.builtin t)

/-- Closes a file: hands its audit record over, and does not mind if it is not kept. -/
def conclude (s : Surroundings σ) (now : Timestamp) (response : Response) (loadedRows : Nat)
    (loadErrors : List LoadError) (state : GateState σ) : FileOutcome × GateState σ :=
  let audit := AuditRecord.of response now
  let (_, around) := s.keep audit state.around
  (⟨response, audit, loadedRows, loadErrors⟩, { state with around := around })

/-- The response to a file that is rejected. -/
def rejected (repository : Repository) (source : String) (t : Option RecordType) (why : Rejection) : Response :=
  let rules := (t.map repository.rulesFor).getD []
  (Tally.start ⟨source, t, RecordGate.fingerprint rules, []⟩).close .failed (some why.message)

/-- How a file ended of which nothing is left to judge. -/
def statusOf (b : Batches) : FileStatus :=
  match b.fileError? with
  | some _ => .failed
  | none => if b.cancelled then .cancelled else .completed

/-- What the rows of a file are judged by under a plan. -/
def judgeWith (g : Gate) (schema : Schema) (plan : RulePlan) : Judge := ⟨schema, g.engine, plan, g.settings.workers⟩

/-- Builds the pool by which rows are judged side by side; where they are not, no pool is needed. -/
def buildPool (g : Gate) (s : Surroundings σ) (schema : Schema) (plan : RulePlan) (around : σ) : Except String Unit :=
  if (g.judgeWith schema plan).isParallel then s.pool g.settings.workers around else .ok ()

/-- Judges and loads a file under a plan. -/
def judge (g : Gate) (s : Surroundings σ) (source : String) (file : Admitted) (schema : Schema) (plan : RulePlan)
    (now : Timestamp) (state : GateState σ) : FileOutcome × GateState σ :=
  let settings := g.settings
  let table := file.recordType.table
  let load := state.nextLoad
  let batches : Batches :=
    .start (g.judgeWith schema plan) (batchSize file.content.length settings.minBatch settings.maxBatch)
      (settings.processingDate now.date) (file.format.rows file.content)
  let about : FileMeta := ⟨source, some file.recordType, plan.fingerprint, plan.warnings⟩
  let poll (l : Loading σ) : Bool × Loading σ :=
    let (stop, around) := s.cancelled l.around
    (stop, { l with around := around })
  let (batches, loading) := batches.drive poll (Loading.take s.loader load table) ⟨.start about, [], state.around⟩
  let status := statusOf batches
  let (loadedRows, loading) := loading.settle s.loader load table status
  let response := loading.tally.close status (batches.fileError?.map FileError.text)
  conclude s now response loadedRows loading.errors { state with nextLoad := load + 1, around := loading.around }

/--
Processes a file. A schema that contradicts itself keeps it from getting a response, and so does a pool that cannot be
built; then nothing has changed but, for want of a pool, the cache.
-/
def process (g : Gate) (s : Surroundings σ) (repository : Repository) (r : Request)
    (content : Except OpenError Bytes) (now : Timestamp) (state : GateState σ) :
    Except Failure FileOutcome × GateState σ :=
  match r.admission content with
  | .error (t, why) =>
    let (outcome, state) := conclude s now (rejected repository r.source t why) 0 [] state
    (.ok outcome, state)
  | .ok file =>
    let schema := g.schemaFor file.recordType
    match schema.consistent? g.engine with
    | .error fault => (.error (.inconsistent fault), state)
    | .ok _ =>
      let (plan, cache) := RulePlan.build (repository.rulesFor file.recordType) schema state.cache
      let state := { state with cache := cache }
      match g.buildPool s schema plan state.around with
      | .error reason => (.error (.noPool reason), state)
      | .ok _ =>
        let (outcome, state) := g.judge s r.source file schema plan now state
        (.ok outcome, state)

end Gate

end RecordGate
