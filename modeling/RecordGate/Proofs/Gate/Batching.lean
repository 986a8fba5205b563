import RecordGate.Proofs.Gate.Settling

/-!
# Batching is invisible

The bounds of the batches and the number of workers decide how the rows of a file are cut into batches and
whether the rows of a batch are judged side by side. Neither shows in the verdict: two gates that differ in
nothing else give a file the same outcome, but for the list of its batches, and load the same rows
(`Gate.process_batching_invisible`).
-/

namespace RecordGate.Gate

variable {τ τ' : Type}

/-- The settings differ in the bounds of the batches and the number of workers at most. -/
def SameButBatches (s s' : Settings) : Prop :=
  { s with minBatch := s'.minBatch, maxBatch := s'.maxBatch, workers := s'.workers } = s'

/--
**Batching is invisible in the verdict.** Let two gates with the same consistent schemas, and with the same engine,
which reads the patterns of the built-in ones, have settings that differ in the bounds of the batches and the number
of workers at most. Let them process a file that nobody stops, from the same cache and the same warehouse, which may
both be empty, with a pool of workers where the file calls for one. Then both answer, their outcomes are the same but
for the list of batches, and so are the warehouses afterwards.
-/
theorem process_batching_invisible (g g' : Gate) (schemas : g'.schemas = g.schemas)
    (engine : g'.engine = g.engine) (settings : SameButBatches g.settings g'.settings) (reads : g.engine.ReadsBuiltin)
    (accepted : ∀ schema ∈ g.schemas, schema.consistent? g.engine = .ok ()) {cancelled : τ → Bool × τ}
    {cancelled' : τ' → Bool × τ'} (never : ∀ s, (cancelled s).1 = false) (never' : ∀ s, (cancelled' s).1 = false)
    (keep : AuditRecord → τ → Except String Unit × τ) (keep' : AuditRecord → τ' → Except String Unit × τ')
    (pool : Nat → τ → Except String Unit) (pool' : Nat → τ' → Except String Unit)
    (repository : Repository) (r : Request) (content : Except OpenError Bytes) (now : Timestamp)
    {cache : RuleCache} (reachable : cache.Reachable) {warehouse : Warehouse} {load load' : LoadId}
    (issued : ∀ e ∈ warehouse.staged, e.1.1 < load) (issued' : ∀ e ∈ warehouse.staged, e.1.1 < load')
    (beside : τ) (beside' : τ')
    (ready : g.HasPool (.memory cancelled keep pool) repository r content ⟨cache, load, (warehouse, beside)⟩)
    (ready' : g'.HasPool (.memory cancelled' keep' pool') repository r content
      ⟨cache, load', (warehouse, beside')⟩) :
    ∃ outcome after outcome' after',
      g.process (.memory cancelled keep pool) repository r content now ⟨cache, load, (warehouse, beside)⟩ =
        (.ok outcome, after) ∧
      g'.process (.memory cancelled' keep' pool') repository r content now ⟨cache, load', (warehouse, beside')⟩ =
        (.ok outcome', after') ∧
      outcome.withoutBatches = outcome'.withoutBatches ∧ after.around.1 = after'.around.1 := by
  cases admitted : r.admission content with
  | error refused =>
    rw [process_of_rejected admitted, process_of_rejected admitted]
    exact ⟨_, _, _, _, rfl, rfl, rfl, rfl⟩
  | ok file =>
    have schemaFor : g'.schemaFor file.recordType = g.schemaFor file.recordType := by
      rw [Gate.schemaFor, Gate.schemaFor, schemas]
    have date : g'.settings.processingDate now.date = g.settings.processingDate now.date := by
      rw [← settings]
      rfl
    have judgeFor : g'.judgeFor repository cache file.recordType =
        { g.judgeFor repository cache file.recordType with workers := g'.settings.workers } := by
      rw [Gate.judgeFor, Gate.judgeFor, schemaFor, judgeWith, engine]
      rfl
    obtain ⟨outcome, after, done, status, failure, processed, ending, settled, loaded⟩ :=
      process_settled reads accepted cancelled keep pool repository r now ⟨cache, load, (warehouse, beside)⟩ ready
        admitted reachable (Warehouse.unstaged_of_lt issued _)
    obtain ⟨outcome', after', done', status', failure', processed', ending', settled', loaded'⟩ :=
      process_settled (engine ▸ reads) (schemas ▸ engine ▸ accepted) cancelled' keep' pool' repository r now
        ⟨cache, load', (warehouse, beside')⟩ ready' admitted reachable (Warehouse.unstaged_of_lt issued' _)
    obtain ⟨rfl, rfl, rfl⟩ := ending.unstopped never
    obtain ⟨rfl, rfl, rfl⟩ := ending'.unstopped never'
    -- Both runs have judged all rows in order, and there the workers do not matter.
    rw [judgeFor, Judge.inOrder_workers, date] at settled' loaded'
    exact ⟨outcome, after, outcome', after', processed, processed', settled.trans settled'.symm,
      loaded.trans loaded'.symm⟩

/-- Three rows in one batch, or each in a batch of its own: one row is valid, and it is loaded. -/
theorem process_batching_invisible_row_by_row :
    let schema : Schema := ⟨.sales, [⟨"amount", .decimal, true, []⟩], .empty⟩
    let whole : Gate := ⟨.standard, rfl, [schema], .common⟩
    let single : Gate :=
      ⟨{ Settings.standard with minBatch := 1, maxBatch := 1, workers := 1 }, rfl, [schema], .common⟩
    let rule : Rule := ⟨"R1", .sales, .range, "amount > 0", .critical, "", true, 1, "", none, none⟩
    let request : Request := ⟨"sales.csv", some .sales, none⟩
    let content : Except OpenError Bytes := .ok (Text.encode "amount\n1.5\nx\n-1\n")
    let state : GateState (Warehouse × Unit) := ⟨.new .standard RuleCache.spread, 0, (.empty, ())⟩
    let around : Surroundings (Warehouse × Unit) :=
      .memory (fun _ => (false, ())) (fun _ _ => (.ok (), ())) fun _ _ => .ok ()
    SameButBatches whole.settings single.settings ∧ whole.engine.ReadsBuiltin ∧
      (∀ s ∈ whole.schemas, s.consistent? whole.engine = .ok ()) ∧ state.cache.Reachable ∧
      whole.HasPool around (.ofRules [rule]) request content state ∧
      single.HasPool around (.ofRules [rule]) request content state ∧
      ∃ outcome after outcome' after',
        whole.process around (.ofRules [rule]) request content (.midnight .epoch) state = (.ok outcome, after) ∧
        single.process around (.ofRules [rule]) request content (.midnight .epoch) state = (.ok outcome', after') ∧
        outcome.withoutBatches = outcome'.withoutBatches ∧ after.around.1 = after'.around.1 ∧
        outcome.loadedRows = 1 ∧ outcome'.loadedRows = 1 := by
  intro schema whole single rule request content state around
  have settings : SameButBatches whole.settings single.settings := rfl
  have reads : whole.engine.ReadsBuiltin := Pattern.Engine.readsBuiltin_common
  have accepted : ∀ s ∈ whole.schemas, s.consistent? whole.engine = .ok () := by
    intro s hs
    rw [List.mem_singleton.mp hs]
    rfl
  have reachable : state.cache.Reachable := RuleCache.reachable_new .standard RuleCache.spread
  have ready (g : Gate) : g.HasPool around (.ofRules [rule]) request content state := .of_all fun _ _ => rfl
  have never (s : Unit) : ((fun _ => (false, ())) s : Bool × Unit).1 = false := rfl
  have issued : ∀ e ∈ Warehouse.empty.staged, e.1.1 < 0 := nofun
  have evaluated : ((whole.process around (.ofRules [rule]) request content (.midnight .epoch) state).1.toOption.any
      (·.loadedRows = 1)) = true := by decide +kernel
  obtain ⟨outcome, after, outcome', after', processed, processed', same, loaded⟩ :=
    process_batching_invisible whole single rfl rfl settings reads accepted never never (fun _ _ => (.ok (), ()))
      (fun _ _ => (.ok (), ())) (fun _ _ => .ok ()) (fun _ _ => .ok ()) (.ofRules [rule]) request content
      (.midnight .epoch) reachable issued issued () () (ready whole) (ready single)
  rw [processed] at evaluated
  have one : outcome.loadedRows = 1 := of_decide_eq_true evaluated
  exact ⟨settings, reads, accepted, reachable, ready whole, ready single, outcome, after, outcome', after', processed,
    processed', same, loaded, one, (congrArg (·.loadedRows) same).symm.trans one⟩

end RecordGate.Gate
