import RecordGate.Proofs.Gate.Settling

/-!
# Loading is all or nothing

Rows are staged batch by batch before it is known how the file ends. However it ends, what was pending in
the warehouse before is pending afterwards and nothing else; the table of the record type has gained all the
valid rows of the file when the response says that the file is completed, and otherwise no table has changed
(`Gate.process_all_or_nothing`).
-/

namespace RecordGate.Gate

variable {τ : Type}

/--
**Loading is all or nothing, and the response says which.** Take any gate with consistent schemas, whose engine reads
the patterns of the built-in ones, in front of a warehouse in memory whose pending loads have numbers that were given
out before, and let anyone ask to stop at any time. Every request for which there is a pool of workers, if it calls
for one, is answered, and leaves the pending loads as they were.

If the response is that the file is completed, every row of the file was judged and the table of its record
type has gained the typed values of the valid rows, in their order; their number is the number of loaded rows
and of valid rows. Otherwise no table has changed and no row is loaded.
-/
theorem process_all_or_nothing (g : Gate) (reads : g.engine.ReadsBuiltin)
    (accepted : ∀ schema ∈ g.schemas, schema.consistent? g.engine = .ok ()) (cancelled : τ → Bool × τ)
    (keep : AuditRecord → τ → Except String Unit × τ) (pool : Nat → τ → Except String Unit) (repository : Repository)
    (r : Request) (content : Except OpenError Bytes) (now : Timestamp) (state : GateState (Warehouse × τ))
    (ready : g.HasPool (.memory cancelled keep pool) repository r content state)
    (reachable : state.cache.Reachable) (issued : ∀ e ∈ state.around.1.staged, e.1.1 < state.nextLoad) :
    ∃ outcome after, g.process (.memory cancelled keep pool) repository r content now state = (.ok outcome, after) ∧
      after.around.1.staged = state.around.1.staged ∧
      (outcome.response.status = .completed → ∃ file, r.admission content = .ok file ∧
        Remaining.failureOf? (file.format.rows file.content) = none ∧
        let table := file.recordType.table
        let judge := g.judgeFor repository state.cache file.recordType
        let asOf := g.settings.processingDate now.date
        let rows := Remaining.rowsOf (file.format.rows file.content)
        let judged := (judge.inOrder (.start asOf) rows).1
        let loaded := (rows.zip judged).filterMap fun (row, j) => judge.schema.typed? judge.engine asOf row j
        after.around.1.rows table = state.around.1.rows table ++ loaded ∧
          (∀ other, other ≠ table → after.around.1.tables.get? other = state.around.1.tables.get? other) ∧
          outcome.loadedRows = loaded.length ∧ outcome.response.validRows = loaded.length) ∧
      (outcome.response.status ≠ .completed →
        after.around.1.tables = state.around.1.tables ∧ outcome.loadedRows = 0) := by
  cases admitted : r.admission content with
  | error refused =>
    rw [process_of_rejected admitted]
    exact ⟨_, _, rfl, rfl, nofun, fun _ => ⟨rfl, rfl⟩⟩
  | ok file =>
    have unstaged := Warehouse.unstaged_of_lt issued file.recordType.table
    obtain ⟨outcome, after, done, status, failure, processed, ending, settled, warehouse⟩ :=
      process_settled reads accepted cancelled keep pool repository r now state ready admitted reachable unstaged
    rw [Warehouse.settled] at warehouse
    obtain ⟨statusIs, loadedRows, validCount⟩ := FileOutcome.of_settled settled
    refine ⟨outcome, after, processed, ?_, fun completed => ?_, fun stopped => ?_⟩
    · rw [warehouse]
      split <;> rfl
    · have completed : status = .completed := statusIs.symm.trans completed
      obtain ⟨rfl, readable⟩ := ending.completed completed
      rw [if_pos completed] at warehouse loadedRows
      refine ⟨file, rfl, readable, ?_⟩
      intro table judge asOf rows judged loaded
      have values : validRows judged = loaded := Judge.values_inOrder (.start asOf) rows
      refine ⟨?_, fun other different => ?_, ?_, ?_⟩
      · rw [warehouse, Warehouse.rows_loaded, ← values]
      · rw [warehouse, Warehouse.tables_loaded _ _ different]
      · rw [loadedRows, ← values]
      · rw [validCount completed, ← values]
        exact (Judge.length_values (.start asOf) rows).symm
    · have stopped : status ≠ .completed := fun completed => stopped (statusIs.trans completed)
      rw [if_neg stopped] at warehouse loadedRows
      exact ⟨congrArg Warehouse.tables warehouse, loadedRows⟩

/-- One of two rows is loaded, beside a load that is pending. -/
theorem process_all_or_nothing_one_valid :
    let schema : Schema := ⟨.sales, [⟨"amount", .decimal, true, []⟩], .empty⟩
    let gate : Gate := ⟨.standard, rfl, [schema], .common⟩
    let rule : Rule := ⟨"R1", .sales, .range, "amount > 0", .critical, "", true, 1, "", none, none⟩
    let request : Request := ⟨"sales.csv", some .sales, none⟩
    let content : Except OpenError Bytes := .ok (Text.encode "amount\n1.5\nx\n")
    let warehouse : Warehouse := ⟨.empty, [((0, RecordType.sales.table), [.empty])]⟩
    let state : GateState (Warehouse × Unit) := ⟨.new .standard RuleCache.spread, 1, (warehouse, ())⟩
    let around : Surroundings (Warehouse × Unit) :=
      .memory (fun _ => (false, ())) (fun _ _ => (.ok (), ())) fun _ _ => .ok ()
    gate.engine.ReadsBuiltin ∧ (∀ s ∈ gate.schemas, s.consistent? gate.engine = .ok ()) ∧
      gate.HasPool around (.ofRules [rule]) request content state ∧ state.cache.Reachable ∧
      (∀ e ∈ warehouse.staged, e.1.1 < state.nextLoad) ∧
      ∃ outcome after,
        gate.process around (.ofRules [rule]) request content (.midnight .epoch) state = (.ok outcome, after) ∧
        outcome.response.status = .completed ∧ after.around.1.staged = warehouse.staged ∧
        ∃ loaded, after.around.1.rows RecordType.sales.table = warehouse.rows RecordType.sales.table ++ loaded ∧
          outcome.response.validRows = loaded.length ∧ outcome.loadedRows = loaded.length ∧ loaded.length = 1 := by
  intro schema gate rule request content warehouse state around
  have reads : gate.engine.ReadsBuiltin := Pattern.Engine.readsBuiltin_common
  have accepted : ∀ s ∈ gate.schemas, s.consistent? gate.engine = .ok () := by
    intro s hs
    rw [List.mem_singleton.mp hs]
    rfl
  have ready : gate.HasPool around (.ofRules [rule]) request content state := .of_all fun _ _ => rfl
  have reachable : state.cache.Reachable := RuleCache.reachable_new .standard RuleCache.spread
  have issued : ∀ e ∈ warehouse.staged, e.1.1 < state.nextLoad := by decide
  have evaluated : ((gate.process around (.ofRules [rule]) request content (.midnight .epoch) state).1.toOption.any
      fun o => o.response.status = .completed ∧ o.loadedRows = 1) = true := by decide +kernel
  obtain ⟨outcome, after, processed, pending, whole, -⟩ :=
    process_all_or_nothing gate reads accepted (fun _ => (false, ())) (fun _ _ => (.ok (), ())) (fun _ _ => .ok ())
      (.ofRules [rule]) request content (.midnight .epoch) state ready reachable issued
  rw [processed] at evaluated
  obtain ⟨completed, one⟩ : outcome.response.status = .completed ∧ outcome.loadedRows = 1 := of_decide_eq_true evaluated
  obtain ⟨⟨type, format, bytes⟩, admitted, -, rows, -, loadedRows, validRows⟩ := whole completed
  obtain rfl : RecordType.sales = type := Option.some.inj (Request.recordType?_of_admission admitted)
  exact ⟨reads, accepted, ready, reachable, issued, outcome, after, processed, completed, pending, _, rows, validRows,
    loadedRows, loadedRows.symm.trans one⟩

end RecordGate.Gate
