import RecordGate.Proofs.Batch.Partition
import RecordGate.Proofs.Rule.Planning
import RecordGate.Proofs.Schema.Checking

/-!
# The gate that a row passes

No rule is evaluated on a row that could not be read or has a critical field error (`Judge.Refuses`), and nothing of
it is remembered in the file. A row is loaded with its checked values exactly when it is valid (`Judge.Gates`).

So a refused row does not show in what is found about any other row: a file without it, whichever way both are cut
into batches, gives the other rows the same outcomes, each with its own number (`Judge.Spares`). This is a statement
about two runs; the induction is on the rows of the longer one, and the state of the file carries it: both runs have
the same state in front of every row that is kept (`Judge.spares_inOrder`).
-/

namespace RecordGate

/-! ## A row -/

namespace Judge

/-- No rule is evaluated on a row that could not be read or has a critical field error. -/
def Refuses (g : Judge) (asOf : Date) : PendingRow → Prop
  | .ok r => ∃ e ∈ (g.schema.check g.engine r asOf).errors, e.severity = .critical
  | .error _ => True

instance (g : Judge) (asOf : Date) : DecidablePred (g.Refuses asOf)
  | .ok r => inferInstanceAs (Decidable (∃ e ∈ (g.schema.check g.engine r asOf).errors, e.severity = .critical))
  | .error _ => inferInstanceAs (Decidable True)

/-- What is known of a row that was judged in a state of the file. -/
structure Gates (g : Judge) (file : FileState) (r : PendingRow) (judged : Judged) (after : FileState) : Prop where
  valid_iff : judged.outcome.isValid = true ↔ (∀ e ∈ judged.outcome.fieldErrors, e.severity ≠ .critical) ∧
    ∀ v ∈ judged.outcome.violations, v.severity ≠ .critical
  /-- A row that is refused says why, and nothing of it is remembered. -/
  refused : g.Refuses file.asOf r → (∃ e ∈ judged.outcome.fieldErrors, e.severity = .critical) ∧
    judged.outcome.violations = [] ∧ after = file
  loaded_iff : judged.values.isSome = true ↔ judged.outcome.isValid = true
  /-- What is loaded are the checked values, with a value of its type in every required field. -/
  loaded : ∀ values ∈ judged.values, ∃ raw, r = .ok raw ∧ values = (g.schema.check g.engine raw file.asOf).values ∧
    ∀ f ∈ g.schema.fields, f.required = true →
      ∃ v, values.get? f.name = some v ∧ v ≠ .null ∧ v.kind = f.type.kind ∧ v.IsDeclared f.type

end Judge

theorem RowOutcome.isValid_of (row : Nat) (errors : List FieldError) (violations : List Violation) :
    (of row errors violations).isValid = true ↔
      (∀ e ∈ errors, e.severity ≠ .critical) ∧ ∀ v ∈ violations, v.severity ≠ .critical := by
  simp [of, Severity.invalidates]

theorem RowCheck.hasCritical_iff (c : RowCheck) : c.hasCritical = true ↔ ∃ e ∈ c.errors, e.severity = .critical := by
  simp [hasCritical, Severity.invalidates]

namespace Judge

variable {g : Judge} {file : FileState} {r : PendingRow}

/-- A row that is refused gets no violation, and the file stays as it is. -/
theorem row_of_refuses (refused : g.Refuses file.asOf r) :
    (∃ e ∈ (g.row file r).1.outcome.fieldErrors, e.severity = .critical) ∧
      (g.row file r).1.outcome.violations = [] ∧ (g.row file r).2 = file := by
  cases r with
  | error e => exact ⟨⟨_, List.mem_singleton.mpr rfl, rfl⟩, rfl, rfl⟩
  | ok raw =>
    have critical : (g.schema.check g.engine raw file.asOf).hasCritical = true :=
      (RowCheck.hasCritical_iff _).mpr refused
    simp only [row, critical, if_true, and_true]
    exact ⟨refused, rfl⟩

/-- A row that was judged counts as valid when nothing critical was found. -/
theorem isValid_row (g : Judge) (file : FileState) (r : PendingRow) :
    (g.row file r).1.outcome.isValid = true ↔
      (∀ e ∈ (g.row file r).1.outcome.fieldErrors, e.severity ≠ .critical) ∧
        ∀ v ∈ (g.row file r).1.outcome.violations, v.severity ≠ .critical := by
  cases r with
  | error e => exact RowOutcome.isValid_of ..
  | ok raw => exact RowOutcome.isValid_of ..

/-- The field errors of a row that could be read are those of its check. -/
theorem fieldErrors_row (g : Judge) (file : FileState) (raw : RawRow) :
    (g.row file (.ok raw)).1.outcome.fieldErrors = (g.schema.check g.engine raw file.asOf).errors := rfl

/-- A valid row that is loaded has a value of its type in every required field. -/
theorem filled_of_valid (accepted : g.schema.consistent? g.engine = .ok ()) {raw : RawRow}
    (valid : (g.row file (.ok raw)).1.outcome.isValid = true) {f : Field} (declared : f ∈ g.schema.fields)
    (required : f.required = true) :
    ∃ v, (g.schema.check g.engine raw file.asOf).values.get? f.name = some v ∧ v ≠ .null ∧ v.kind = f.type.kind ∧
      v.IsDeclared f.type := by
  have calls := f.check_callsFor (Schema.suits_of_consistent accepted f declared) raw.index file.asOf
    ((g.schema.resolve raw).get? f.name)
  have clean : ∀ e ∈ (f.check g.engine raw.index file.asOf ((g.schema.resolve raw).get? f.name)).2,
      e.severity ≠ .critical := by
    intro e reported
    refine ((isValid_row ..).mp valid).1 e ?_
    rw [fieldErrors_row, Schema.check_errors]
    exact List.mem_flatMap.mpr ⟨f, declared, reported⟩
  obtain ⟨filled, kind⟩ := calls.filled clean required
  exact ⟨_, Schema.get?_values (Schema.nodup_of_consistent accepted) raw file.asOf declared, filled, kind,
    calls.isDeclared⟩

theorem gates_row (accepted : g.schema.consistent? g.engine = .ok ()) (file : FileState) (r : PendingRow) :
    g.Gates file r (g.row file r).1 (g.row file r).2 where
  valid_iff := isValid_row ..
  refused := row_of_refuses
  loaded_iff := by rw [isSome_values_row]
  loaded values loaded := by
    have valid : (g.row file r).1.outcome.isValid = true := by
      rw [← isSome_values_row, loaded]
      rfl
    rw [values_row] at loaded
    cases r with
    | error e => cases loaded
    | ok raw =>
      rw [Schema.typed?, if_pos valid] at loaded
      cases loaded
      exact ⟨raw, rfl, rfl, fun f declared required => filled_of_valid accepted valid declared required⟩

end Judge

/-! ## Files without refused rows -/

/-- The outcome of a row is the other outcome, but for the number of the row. -/
def RowOutcome.Renumbers (new old : RowOutcome) : Prop := new = old.inRow new.row

namespace Judge

/--
Rows that are left of rows when those of some numbers are removed, all of which are refused. The others may have got
new numbers.
-/
structure Reduces (g : Judge) (asOf : Date) (removed : Nat → Bool) (rows kept : List PendingRow) : Prop where
  refused : ∀ r ∈ rows, removed r.number = true → g.Refuses asOf r
  same : kept.map PendingRow.content = (rows.filter fun r => !removed r.number).map PendingRow.content

/-- The outcomes that are not removed are the outcomes afterwards, each with its own number. -/
def Spares (removed : Nat → Bool) (before after : List RowOutcome) : Prop :=
  (before.filter fun o => !removed o.row).Forall₂ (fun old new => new.Renumbers old) after

variable {g : Judge} {asOf : Date} {file : FileState} {removed : Nat → Bool} {r : PendingRow}
  {rows kept : List PendingRow}

/-- Rows without the first of them, which is removed or kept. -/
theorem Reduces.cons_cases (h : g.Reduces asOf removed (r :: rows) kept) :
    (removed r.number = true ∧ g.Refuses asOf r ∧ g.Reduces asOf removed rows kept) ∨
      removed r.number = false ∧ ∃ again later, kept = again :: later ∧ again.content = r.content ∧
        g.Reduces asOf removed rows later := by
  obtain ⟨first, others⟩ := List.forall_mem_cons.mp h.refused
  have same := h.same
  rw [List.filter_cons] at same
  cases gone : removed r.number with
  | true =>
    rw [if_neg (by simp [gone])] at same
    exact .inl ⟨rfl, first gone, others, same⟩
  | false =>
    rw [if_pos (by simp [gone]), List.map_cons] at same
    obtain ⟨again, later, rfl, content, left⟩ := List.map_eq_cons_iff.mp same
    exact .inr ⟨rfl, again, later, rfl, content, others, left⟩

theorem Reduces.kept_of_nil (h : g.Reduces asOf removed [] kept) : kept = [] := List.map_eq_nil_iff.mp h.same

theorem spares_removed {o : RowOutcome} {before after : List RowOutcome} (gone : removed o.row = true)
    (h : Spares removed before after) : Spares removed (o :: before) after := by
  rw [Spares, List.filter_cons_of_neg (by simp [gone])]
  exact h

theorem spares_kept {old new : RowOutcome} {before after : List RowOutcome} (stays : removed old.row = false)
    (same : new.Renumbers old) (h : Spares removed before after) : Spares removed (old :: before) (new :: after) := by
  rw [Spares, List.filter_cons_of_pos (by simp [stays])]
  exact .cons same h

/-- The outcome of a row with another number. -/
theorem renumbers_row (g : Judge) (file : FileState) {again : PendingRow} (same : again.content = r.content) :
    (g.row file again).1.outcome.Renumbers (g.row file r).1.outcome := by
  rw [RowOutcome.Renumbers, row_outcome, row_inRow g file same]
  rfl

/-- **Refused rows leave no trace** when rows are judged one after the other. -/
theorem spares_inOrder (h : g.Reduces file.asOf removed rows kept) :
    (g.inOrder file kept).2 = (g.inOrder file rows).2 ∧
      Spares removed ((g.inOrder file rows).1.map (·.outcome)) ((g.inOrder file kept).1.map (·.outcome)) := by
  induction rows generalizing file kept with
  | nil =>
    rw [h.kept_of_nil]
    exact ⟨rfl, .nil⟩
  | cons r rest ih =>
    rcases h.cons_cases with ⟨gone, refused, h⟩ | ⟨stays, again, later, rfl, content, h⟩
    · obtain ⟨-, -, unchanged⟩ := row_of_refuses refused
      obtain ⟨state, spares⟩ := ih h
      rw [inOrder_cons, unchanged]
      exact ⟨state, spares_removed (by rwa [row_outcome]) spares⟩
    · have alike : (g.row file again).2 = (g.row file r).2 := by rw [row_inRow g file content]
      rw [← asOf_row r] at h
      obtain ⟨state, spares⟩ := ih h
      rw [inOrder_cons, inOrder_cons, alike]
      exact ⟨state, spares_kept (by rwa [row_outcome]) (renumbers_row g file content) spares⟩

theorem spares_sideBySide (h : g.Reduces file.asOf removed rows kept) :
    Spares removed ((g.sideBySide file rows).map (·.outcome)) ((g.sideBySide file kept).map (·.outcome)) := by
  induction rows generalizing kept with
  | nil =>
    rw [h.kept_of_nil]
    exact .nil
  | cons r rest ih =>
    rcases h.cons_cases with ⟨gone, -, h⟩ | ⟨stays, again, later, rfl, content, h⟩
    · exact spares_removed (by rwa [row_outcome]) (ih h)
    · exact spares_kept (by rwa [row_outcome]) (renumbers_row g file content) (ih h)

/-- Refused rows leave no trace in a batch. -/
theorem spares_batch (h : g.Reduces file.asOf removed rows kept) :
    Spares removed ((g.batch file rows).1.map (·.outcome)) ((g.batch file kept).1.map (·.outcome)) := by
  unfold batch
  split
  · exact spares_sideBySide h
  · exact (spares_inOrder h).2

/--
**The gate of a row.** Let a schema be consistent. Whatever the rules and the state of a file are, a row is valid
exactly when nothing critical is found about it. A row that could not be read or has a critical field error gets no
violation and leaves the file as it is, and a row is loaded exactly when it is valid, with its checked values and a
value of its type in every required field. So removing refused rows from a file changes nothing that is found about
the other rows but their numbers: neither where rows are judged one after the other from any state, which ends the
same, nor where both files are cut into batches of any size.
-/
theorem gates_rows (accepted : g.schema.consistent? g.engine = .ok ()) :
    (∀ file r, g.Gates file r (g.row file r).1 (g.row file r).2) ∧
      (∀ file removed rows kept, g.Reduces file.asOf removed rows kept →
        (g.inOrder file kept).2 = (g.inOrder file rows).2 ∧
          Spares removed ((g.inOrder file rows).1.map (·.outcome)) ((g.inOrder file kept).1.map (·.outcome))) ∧
      ∀ asOf removed items fewer, g.Reduces asOf removed (Remaining.rowsOf items) (Remaining.rowsOf fewer) →
        ∀ size size', 0 < size → 0 < size' →
          Spares removed ((Batches.start g size asOf items).unstopped.flatMap (·.outcomes))
            ((Batches.start g size' asOf fewer).unstopped.flatMap (·.outcomes)) := by
  refine ⟨gates_row accepted, fun _ _ _ _ => spares_inOrder, ?_⟩
  intro asOf removed items fewer reduced size size' positive positive'
  rw [Batched.outcomes_eq (Batches.batched_unstopped g positive asOf items),
    Batched.outcomes_eq (Batches.batched_unstopped g positive' asOf fewer)]
  exact spares_batch reduced

/-- A row without an amount has the same code as the rows behind it. Without that row, they have the same outcomes. -/
theorem gates_rows_duplicate :
    let schema : Schema := ⟨.sales, [⟨"amount", .decimal, true, []⟩, ⟨"code", .text, false, []⟩], .empty⟩
    let rule : Rule := ⟨"R1", .sales, .business, "unique(code)", .warning, "", true, 1, "", none, none⟩
    let g : Judge := ⟨schema, .common, (RulePlan.build [rule] schema (.new .standard RuleCache.spread)).1, 4⟩
    let items := Format.csv.rows (Text.encode "amount,code\n,A\n5,A\n7,A\n")
    let fewer := Format.csv.rows (Text.encode "amount,code\n5,A\n7,A\n")
    let outcomes (size : Nat) (items : List RowItem) : List RowOutcome :=
      (Batches.start g size .epoch items).unstopped.flatMap (·.outcomes)
    g.schema.consistent? g.engine = .ok () ∧
      g.Reduces .epoch (· == 1) (Remaining.rowsOf items) (Remaining.rowsOf fewer) ∧
      (outcomes 2 items).map (·.row) = [1, 2, 3] ∧ (outcomes 1 fewer).map (·.row) = [1, 2] ∧
      Spares (· == 1) (outcomes 2 items) (outcomes 1 fewer) := by
  intro schema rule g items fewer outcomes
  have accepted : g.schema.consistent? g.engine = .ok () := rfl
  have planned : g.plan = RulePlan.ofOrdered schema _ [rule] :=
    RulePlan.build_of_ascending (RuleCache.reachable_new .standard RuleCache.spread) rfl (by decide) schema
  have built : g = ⟨schema, .common, RulePlan.ofOrdered schema (fingerprint [rule]) [rule], 4⟩ := by rw [← planned]
  have reduced : g.Reduces .epoch (· == 1) (Remaining.rowsOf items) (Remaining.rowsOf fewer) := by
    rw [built]
    exact ⟨by decide +kernel, by decide +kernel⟩
  refine ⟨accepted, reduced, ?_, ?_, ?_⟩
  · simp only [outcomes]
    rw [built]
    decide +kernel
  · simp only [outcomes]
    rw [built]
    decide +kernel
  · exact (gates_rows accepted).2.2 .epoch (· == 1) items fewer reduced 2 1 (by decide) (by decide)

end Judge

end RecordGate
