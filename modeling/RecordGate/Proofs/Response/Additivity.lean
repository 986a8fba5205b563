import Mathlib
import RecordGate.Proofs.Record
import RecordGate.Proofs.Response.Tally

/-!
# A response adds up

The findings about a file are counted on three ways: in the summaries of its batches, in the lists of the
response, and in the digest of the audit record. However the outcomes of the rows are cut into batches and
however the file ended, the three agree, no finding is lost and none comes twice (`Tally.close_addsUp`).

While batches are pushed, the sums are those of the outcomes so far and the summaries are kept as they came
(`Tally.Gathered`, kept by `Tally.Gathered.push`). Closing sorts the findings by rows; the sort keeps the
order of what belongs to one row (`RowOutcome.listed_mergeSort`).
-/

namespace RecordGate

/-! ## Names that are tallied -/

namespace Record

theorem sum_insertEntry {es : List (String × Nat)} (ascending : es.Pairwise fun a b => a.1 < b.1) (name : String)
    (n : Nat) :
    ((insertEntry name n es).map (·.2)).sum + ((es.find? (·.1 == name)).map (·.2)).getD 0 =
      (es.map (·.2)).sum + n := by
  induction es with
  | nil => simp [insertEntry]
  | cons e rest ih =>
    obtain ⟨first, ascending⟩ := List.pairwise_cons.mp ascending
    unfold insertEntry
    by_cases less : name < e.1
    · -- The names that follow are greater still.
      have absent : (e :: rest).find? (·.1 == name) = none := by
        refine List.find?_eq_none.mpr fun f hf same => ?_
        rw [← beq_iff_eq.mp same] at less
        rcases List.mem_cons.mp hf with rfl | hf
        · exact String.lt_irrefl _ less
        · exact String.lt_irrefl _ (String.lt_trans less (first f hf))
      rw [if_pos less, absent]
      simp only [List.map_cons, List.sum_cons, Option.map_none, Option.getD_none]
      omega
    · rw [if_neg less]
      by_cases same : name = e.1
      · rw [if_pos same, List.find?_cons, beq_iff_eq.mpr same.symm]
        simp only [List.map_cons, List.sum_cons, Option.map_some, Option.getD_some]
        omega
      · have others := ih ascending
        rw [if_neg same, List.find?_cons, beq_false_of_ne (Ne.symm same)]
        simp only [List.map_cons, List.sum_cons]
        omega

/-- A name that is met once more is counted once more. -/
theorem sum_set_succ (r : Record Nat) (name : String) :
    (r.set name ((r.get? name).getD 0 + 1)).values.sum = r.values.sum + 1 := by
  have sums := sum_insertEntry r.ascending name ((r.get? name).getD 0 + 1)
  change (insertEntry name _ r.entries |>.map (·.2)).sum + (r.get? name).getD 0 = _ at sums
  change (insertEntry name _ r.entries |>.map (·.2)).sum = (r.entries.map (·.2)).sum + 1
  omega

/-- The counts of all names are as many as the names. -/
theorem sum_tally (names : List String) : (tally names).values.sum = names.length := by
  have from_any (r : Record Nat) :
      (names.foldl (fun r n => r.set n ((r.get? n).getD 0 + 1)) r).values.sum = r.values.sum + names.length := by
    induction names generalizing r with
    | nil => rfl
    | cons name rest ih =>
      rw [List.foldl_cons, ih, sum_set_succ, List.length_cons, Nat.add_assoc, Nat.add_comm 1]
  exact (from_any .empty).trans (Nat.zero_add _)

/-- A name is counted as often as it stands in the list. -/
theorem get?_tally (names : List String) (name : String) : ((tally names).get? name).getD 0 = names.count name := by
  have from_any (r : Record Nat) :
      ((names.foldl (fun r n => r.set n ((r.get? n).getD 0 + 1)) r).get? name).getD 0 =
        (r.get? name).getD 0 + names.count name := by
    induction names generalizing r with
    | nil => rfl
    | cons first rest ih =>
      rw [List.foldl_cons, ih, get?_set, List.count_cons]
      by_cases same : first = name
      · subst same
        simp only [if_true, Option.getD_some, beq_self_eq_true]
        omega
      · simp only [if_neg same, beq_false_of_ne same]
        rfl
  exact (from_any .empty).trans (Nat.zero_add _)

end Record

/-! ## Findings in the order of rows -/

namespace RowOutcome

variable {α : Type} {row : α → Nat} {found : RowOutcome → List α} {outcomes : List RowOutcome}

/-- A list of all findings of one sort about rows: by rows, and those about a row in the order of the row. -/
structure Listed (row : α → Nat) (found : RowOutcome → List α) (outcomes : List RowOutcome) (listed : List α) :
    Prop where
  all : listed.Perm (outcomes.flatMap found)
  byRow : listed.Pairwise fun a b => row a ≤ row b
  ownOrder : ∀ n, listed.filter (row · = n) = (outcomes.filter (·.row = n)).flatMap found

/-- Findings that carry the number of their row are picked by row from the outcomes of the row. -/
theorem filter_flatMap (own : ∀ o ∈ outcomes, ∀ a ∈ found o, row a = o.row) (n : Nat) :
    (outcomes.flatMap found).filter (row · = n) = (outcomes.filter (·.row = n)).flatMap found := by
  induction outcomes with
  | nil => rfl
  | cons o rest ih =>
    have others := ih fun p hp => own p (List.mem_cons_of_mem _ hp)
    have mine := own o List.mem_cons_self
    rw [List.flatMap_cons, List.filter_append, others]
    by_cases here : o.row = n
    · rw [List.filter_cons, if_pos (decide_eq_true here), List.flatMap_cons,
        List.filter_eq_self.mpr fun a ha => decide_eq_true ((mine a ha).trans here)]
    · rw [List.filter_cons, if_neg (fun h => here (of_decide_eq_true h)),
        List.filter_eq_nil_iff.mpr fun a ha h => here ((mine a ha).symm.trans (of_decide_eq_true h))]
      rfl

/-- **Sorting findings by rows lists them**: those about a row stay in their order. -/
theorem listed_mergeSort (own : ∀ o ∈ outcomes, ∀ a ∈ found o, row a = o.row) :
    Listed row found outcomes ((outcomes.flatMap found).mergeSort fun a b => row a ≤ row b) := by
  have trans (a b c : α) (ab : decide (row a ≤ row b) = true) (bc : decide (row b ≤ row c) = true) :
      decide (row a ≤ row c) = true :=
    decide_eq_true (Nat.le_trans (of_decide_eq_true ab) (of_decide_eq_true bc))
  have total (a b : α) : (decide (row a ≤ row b) || decide (row b ≤ row a)) = true := by
    simpa using Nat.le_total (row a) (row b)
  have perm := List.mergeSort_perm (outcomes.flatMap found) fun a b => decide (row a ≤ row b)
  refine ⟨perm, (List.pairwise_mergeSort trans total _).imp of_decide_eq_true, fun n => ?_⟩
  rw [← filter_flatMap own n]
  -- The findings about one row are in order whichever way they stand, so the sort leaves them alone.
  have level : ((outcomes.flatMap found).filter (row · = n)).Pairwise fun a b => decide (row a ≤ row b) = true := by
    refine List.pairwise_of_forall_mem_list fun a ha b hb => decide_eq_true (Nat.le_of_eq ?_)
    have here := of_decide_eq_true (List.mem_filter.mp ha).2
    exact here.trans (of_decide_eq_true (List.mem_filter.mp hb).2).symm
  have kept := (List.sublist_mergeSort trans total level List.filter_sublist).filter (row · = n)
  simp only [List.filter_filter, Bool.and_self] at kept
  exact (kept.eq_of_length (perm.filter _).length_eq.symm).symm

end RowOutcome

/-! ## Sums over batches -/

/-- How many findings of a severity are counted. -/
def SeverityCounts.number (c : SeverityCounts) : Severity → Nat
  | .critical => c.critical
  | .warning => c.warning
  | .info => c.info

theorem SeverityCounts.number_of (ss : List Severity) (s : Severity) : (of ss).number s = ss.count s := by
  cases s <;> rfl

/-- Outcomes of rows that are cut into batches, each with its number. -/
abbrev RowOutcome.Cut := List (Nat × List RowOutcome)

namespace RowOutcome.Cut

/-- The outcomes of all batches. -/
def outcomes (cut : Cut) : List RowOutcome := cut.flatMap (·.2)

def summaries (cut : Cut) : List BatchSummary := cut.map fun b => .of b.1 b.2

variable {cut : Cut}

/-- What adds up over rows adds up over batches. -/
theorem sum_summaries {f : List RowOutcome → Nat} {g : BatchSummary → Nat} (summed : ∀ i os, g (.of i os) = f os)
    (none : f [] = 0) (append : ∀ os ps, f (os ++ ps) = f os + f ps) : (cut.summaries.map g).sum = f cut.outcomes := by
  induction cut with
  | nil => exact none.symm
  | cons b rest ih =>
    change g (.of b.1 b.2) + ((summaries rest).map g).sum = f (b.2 ++ outcomes rest)
    rw [summed, ih, append]

theorem sum_totalRows : (cut.summaries.map (·.totalRows)).sum = cut.outcomes.length :=
  sum_summaries (fun _ _ => rfl) rfl fun _ _ => List.length_append

theorem sum_validRows : (cut.summaries.map (·.validRows)).sum = cut.outcomes.countP (·.isValid) :=
  sum_summaries (f := fun os => os.countP (·.isValid)) (fun _ _ => rfl) rfl fun _ _ => List.countP_append

theorem sum_invalidRows :
    (cut.summaries.map (·.invalidRows)).sum = cut.outcomes.length - cut.outcomes.countP (·.isValid) := by
  refine sum_summaries (f := fun os => os.length - os.countP (·.isValid)) (fun _ _ => rfl) rfl fun os ps => ?_
  have some : os.countP (·.isValid) ≤ os.length := List.countP_le_length
  have others : ps.countP (·.isValid) ≤ ps.length := List.countP_le_length
  simp only [List.length_append, List.countP_append]
  omega

theorem sum_counts (s : Severity) :
    (cut.summaries.map (·.counts.number s)).sum = (cut.outcomes.flatMap (·.severities)).count s :=
  sum_summaries (f := fun os => (os.flatMap (·.severities)).count s) (fun _ _ => SeverityCounts.number_of _ s) rfl
    fun _ _ => by rw [List.flatMap_append, List.count_append]

end RowOutcome.Cut

/-- The findings of a severity are field errors and violations. -/
theorem RowOutcome.count_severities (outcomes : List RowOutcome) (s : Severity) :
    (outcomes.flatMap (·.severities)).count s =
      (outcomes.flatMap (·.fieldErrors)).countP (·.severity = s) +
        (outcomes.flatMap (·.violations)).countP (·.severity = s) := by
  have count_map {α : Type} (severity : α → Severity) (found : List α) :
      (found.map severity).count s = found.countP (severity · = s) := by
    rw [List.count, List.countP_map]
    rfl
  induction outcomes with
  | nil => rfl
  | cons o rest ih =>
    have here : o.severities.count s =
        o.fieldErrors.countP (·.severity = s) + o.violations.countP (·.severity = s) := by
      rw [severities, List.count_append, count_map, count_map]
    simp only [List.flatMap_cons, List.count_append, List.countP_append, ih, here]
    omega

/-- Every finding has one of the severities. -/
theorem length_eq_countP_severity {α : Type} (severity : α → Severity) (found : List α) :
    found.length = found.countP (severity · = .critical) + found.countP (severity · = .warning) +
      found.countP (severity · = .info) := by
  induction found with
  | nil => rfl
  | cons a rest ih =>
    simp only [List.length_cons, List.countP_cons, ih]
    cases severity a <;> simp <;> omega

/-! ## Pushing batches -/

namespace Tally

open RowOutcome (Cut)

variable {about : FileMeta} {cut more : Cut} {t : Tally}

/-- What a tally has gathered from batches: the sums over their outcomes, and their summaries. -/
structure Gathered (about : FileMeta) (cut : Cut) (t : Tally) : Prop where
  sums : t.sums = ofOutcomes about cut.outcomes
  batches : t.batches = cut.summaries

theorem gathered_start (about : FileMeta) : Gathered about [] (start about) := ⟨sums_start about, rfl⟩

theorem Gathered.push (h : Gathered about cut t) (index : Nat) (outcomes : List RowOutcome) :
    Gathered about (cut ++ [(index, outcomes)]) (t.push (.of index outcomes) outcomes) := by
  constructor
  · rw [sums_push h.sums, Cut.outcomes, Cut.outcomes, List.flatMap_append, List.flatMap_singleton]
  · rw [Cut.summaries, List.map_append]
    exact congrArg (· ++ [BatchSummary.of index outcomes]) h.batches

/-- Pushes batches in order. -/
def pushAll (t : Tally) (cut : Cut) : Tally := cut.foldl (fun t b => t.push (.of b.1 b.2) b.2) t

theorem Gathered.pushAll (h : Gathered about cut t) : Gathered about (cut ++ more) (t.pushAll more) := by
  induction more generalizing cut t with
  | nil => rwa [List.append_nil]
  | cons b rest ih =>
    rw [List.append_cons]
    exact ih (h.push b.1 b.2)

end Tally

/-! ## The response -/

/-- A response, with the digest in its audit record, that adds up to outcomes cut into batches. -/
structure Response.AddsUp (r : Response) (cut : RowOutcome.Cut) : Prop where
  totalRows : r.totalRows = cut.outcomes.length
  /-- A file that failed has no valid row. -/
  validRows : r.validRows = if r.status = .failed then 0 else cut.outcomes.countP (·.isValid)
  invalidRows : r.validRows + r.invalidRows = r.totalRows
  batches : r.batches.Perm (cut.summaries.map fun s => if r.status = .failed then s.invalidated else s)
  invalidRowsOfBatch : ∀ s ∈ r.batches, s.validRows + s.invalidRows = s.totalRows
  validRowsOfBatch : r.status = .failed → ∀ s ∈ r.batches, s.validRows = 0
  sumTotalRows : r.totalRows = (r.batches.map (·.totalRows)).sum
  sumValidRows : r.validRows = (r.batches.map (·.validRows)).sum
  sumInvalidRows : r.invalidRows = (r.batches.map (·.invalidRows)).sum
  sumCounts : ∀ s, r.counts.number s = (r.batches.map (·.counts.number s)).sum
  fieldErrors : RowOutcome.Listed (·.row) (·.fieldErrors) cut.outcomes r.fieldErrors
  violations : RowOutcome.Listed (·.row) (·.violations) cut.outcomes r.violations
  counts : ∀ s, r.counts.number s = r.fieldErrors.countP (·.severity = s) + r.violations.countP (·.severity = s)
  byCode : ∀ code, ((ErrorSummary.of r).fieldErrors.get? code).getD 0 = (r.fieldErrors.map (·.code.name)).count code
  byRule : ∀ id, ((ErrorSummary.of r).violations.get? id).getD 0 = (r.violations.map (·.ruleId)).count id
  digest : r.counts.critical + r.counts.warning + r.counts.info =
    (ErrorSummary.of r).fieldErrors.values.sum + (ErrorSummary.of r).violations.values.sum

namespace Tally

open RowOutcome (Cut)

variable {about : FileMeta} {cut : Cut} {t : Tally} {status : FileStatus}

/-- The summaries in a response are those that were pushed, of a file that failed without valid rows. -/
theorem Gathered.batches_close (h : Gathered about cut t) (status : FileStatus) (fileError : Option String) :
    (t.close status fileError).batches.Perm
      (cut.summaries.map fun s => if status = .failed then s.invalidated else s) := by
  have sorted : (t.batches.mergeSort fun a b => a.index ≤ b.index).Perm cut.summaries :=
    h.batches ▸ List.mergeSort_perm _ _
  by_cases failed : status = .failed
  · subst failed
    exact sorted.map _
  · have same : (t.close status fileError).batches = t.batches.mergeSort fun a b => a.index ≤ b.index :=
      if_neg fun h => failed (beq_iff_eq.mp h)
    simpa only [same, if_neg failed, List.map_id'] using sorted

/-- A number of each summary sums up to the same in any order. -/
theorem Gathered.sum_batches (h : Gathered about cut t) (status : FileStatus) (fileError : Option String)
    (g : BatchSummary → Nat) :
    ((t.close status fileError).batches.map g).sum =
      (cut.summaries.map fun s => g (if status = .failed then s.invalidated else s)).sum := by
  rw [((h.batches_close status fileError).map g).sum_eq, List.map_map]
  rfl

/-- Each summary in a response is one that was pushed. -/
theorem Gathered.of_mem_batches (h : Gathered about cut t) {fileError : Option String} {s : BatchSummary}
    (hs : s ∈ (t.close status fileError).batches) :
    ∃ b ∈ cut, s = if status = .failed then (BatchSummary.of b.1 b.2).invalidated else .of b.1 b.2 := by
  obtain ⟨pushed, mem, rfl⟩ := List.mem_map.mp ((h.batches_close status fileError).mem_iff.mp hs)
  obtain ⟨b, hb, rfl⟩ := List.mem_map.mp mem
  exact ⟨b, hb, rfl⟩

/-- The findings that a tally has gathered are all those of the outcomes. -/
theorem Gathered.found (h : Gathered about cut t) :
    t.fieldErrors = cut.outcomes.flatMap (·.fieldErrors) ∧ t.violations = cut.outcomes.flatMap (·.violations) ∧
      t.counts = .of (cut.outcomes.flatMap (·.severities)) := by
  refine ⟨congrArg fieldErrors h.sums, congrArg violations h.sums, ?_⟩
  refine (congrArg counts h.sums).trans ?_
  change SeverityCounts.add .zero (.of _) = _
  simp only [SeverityCounts.add, SeverityCounts.zero, SeverityCounts.of, Nat.zero_add]

/-- The rows that a tally has counted are those of the outcomes. -/
theorem Gathered.rows (h : Gathered about cut t) :
    t.totalRows = cut.outcomes.length ∧ t.validRows = cut.outcomes.countP (·.isValid) ∧
      t.invalidRows = cut.outcomes.length - cut.outcomes.countP (·.isValid) :=
  ⟨(congrArg totalRows h.sums).trans (Nat.zero_add _), (congrArg validRows h.sums).trans (Nat.zero_add _),
    (congrArg invalidRows h.sums).trans (Nat.zero_add _)⟩

/-- The counts of rows in a response. A file that failed counts no row as valid. -/
theorem Gathered.rows_close (h : Gathered about cut t) (status : FileStatus) (fileError : Option String) :
    let r := t.close status fileError
    r.totalRows = cut.outcomes.length ∧
      r.validRows = (if status = .failed then 0 else cut.outcomes.countP (·.isValid)) ∧
      r.invalidRows = if status = .failed then cut.outcomes.length
        else cut.outcomes.length - cut.outcomes.countP (·.isValid) := by
  intro r
  obtain ⟨total, valid, invalid⟩ := h.rows
  refine ⟨total, ?_, ?_⟩
  · change (if status == .failed then 0 else t.validRows) = _
    simp only [beq_iff_eq, valid]
  · change (if status == .failed then t.totalRows else t.invalidRows) = _
    simp only [beq_iff_eq, total, invalid]

theorem Gathered.listed_fieldErrors (h : Gathered about cut t) (status : FileStatus) (fileError : Option String)
    (own : ∀ o ∈ cut.outcomes, ∀ e ∈ o.fieldErrors, e.row = o.row) :
    RowOutcome.Listed (·.row) (·.fieldErrors) cut.outcomes (t.close status fileError).fieldErrors := by
  change RowOutcome.Listed _ _ _ (t.fieldErrors.mergeSort _)
  rw [h.found.1]
  exact RowOutcome.listed_mergeSort own

theorem Gathered.listed_violations (h : Gathered about cut t) (status : FileStatus) (fileError : Option String)
    (own : ∀ o ∈ cut.outcomes, ∀ v ∈ o.violations, v.row = o.row) :
    RowOutcome.Listed (·.row) (·.violations) cut.outcomes (t.close status fileError).violations := by
  change RowOutcome.Listed _ _ _ (t.violations.mergeSort _)
  rw [h.found.2.1]
  exact RowOutcome.listed_mergeSort own

/-- The findings of a severity are counted over all rows. -/
theorem Gathered.number_counts (h : Gathered about cut t) (s : Severity) :
    t.counts.number s = (cut.outcomes.flatMap (·.severities)).count s := by
  rw [h.found.2.2, SeverityCounts.number_of]

/-- The numbers of a response are the sums over its batches. -/
theorem Gathered.sums_close (h : Gathered about cut t) (status : FileStatus) (fileError : Option String) :
    let r := t.close status fileError
    r.totalRows = (r.batches.map (·.totalRows)).sum ∧ r.validRows = (r.batches.map (·.validRows)).sum ∧
      r.invalidRows = (r.batches.map (·.invalidRows)).sum ∧
      ∀ s, r.counts.number s = (r.batches.map (·.counts.number s)).sum := by
  intro r
  obtain ⟨total, valid, invalid⟩ := h.rows_close status fileError
  -- A failure moves rows from the valid ones to the others and changes no other number of a summary.
  have untouched (g : BatchSummary → Nat) (kept : ∀ s, g s.invalidated = g s) :
      (r.batches.map g).sum = (cut.summaries.map g).sum := by
    rw [h.sum_batches]
    refine congrArg List.sum (List.map_congr_left fun s _ => ?_)
    split
    · exact kept s
    · rfl
  refine ⟨?_, ?_, ?_, fun s => ?_⟩
  · rw [untouched _ fun _ => rfl, Cut.sum_totalRows]
    exact total
  · rw [h.sum_batches, valid]
    by_cases failed : status = .failed
    · simp [failed, BatchSummary.invalidated]
    · simp only [if_neg failed, Cut.sum_validRows]
  · rw [h.sum_batches, invalid]
    by_cases failed : status = .failed
    · simp only [if_pos failed, BatchSummary.invalidated, Cut.sum_totalRows]
    · simp only [if_neg failed, Cut.sum_invalidRows]
  · rw [untouched _ fun _ => rfl, Cut.sum_counts]
    exact h.number_counts s

/-- In each summary of a response every row is valid or invalid, and none is valid in a file that failed. -/
theorem Gathered.of_summary (h : Gathered about cut t) {fileError : Option String} {s : BatchSummary}
    (hs : s ∈ (t.close status fileError).batches) :
    s.validRows + s.invalidRows = s.totalRows ∧ (status = .failed → s.validRows = 0) := by
  obtain ⟨b, -, rfl⟩ := h.of_mem_batches hs
  have bound : b.2.countP (·.isValid) ≤ b.2.length := List.countP_le_length
  split
  · exact ⟨Nat.zero_add _, fun _ => rfl⟩
  · next regular => exact ⟨Nat.add_sub_cancel' bound, fun failed => absurd failed regular⟩

/-- **Closing what has been gathered from batches gives a response that adds up.** -/
theorem Gathered.addsUp (h : Gathered about cut t) (status : FileStatus) (fileError : Option String)
    (own : ∀ o ∈ cut.outcomes, (∀ e ∈ o.fieldErrors, e.row = o.row) ∧ ∀ v ∈ o.violations, v.row = o.row) :
    (t.close status fileError).AddsUp cut := by
  let r := t.close status fileError
  obtain ⟨total, valid, invalid⟩ := h.rows_close status fileError
  obtain ⟨sumTotal, sumValid, sumInvalid, sumCounts⟩ := h.sums_close status fileError
  have fieldErrors := h.listed_fieldErrors status fileError fun o ho => (own o ho).1
  have violations := h.listed_violations status fileError fun o ho => (own o ho).2
  have bound : cut.outcomes.countP (·.isValid) ≤ cut.outcomes.length := List.countP_le_length
  have invalidRows : r.validRows + r.invalidRows = r.totalRows := by
    rw [valid, invalid, total]
    split <;> omega
  have counts (s : Severity) :
      r.counts.number s = r.fieldErrors.countP (·.severity = s) + r.violations.countP (·.severity = s) := by
    rw [fieldErrors.all.countP_eq, violations.all.countP_eq, ← RowOutcome.count_severities]
    exact h.number_counts s
  have digest : r.counts.critical + r.counts.warning + r.counts.info =
      (ErrorSummary.of r).fieldErrors.values.sum + (ErrorSummary.of r).violations.values.sum := by
    have critical := counts .critical
    have warning := counts .warning
    have info := counts .info
    have errors := length_eq_countP_severity (·.severity) r.fieldErrors
    have broken := length_eq_countP_severity (·.severity) r.violations
    change _ = (Record.tally _).values.sum + (Record.tally _).values.sum
    rw [Record.sum_tally, Record.sum_tally, List.length_map, List.length_map]
    simp only [SeverityCounts.number] at critical warning info
    omega
  exact ⟨total, valid, invalidRows, h.batches_close status fileError, fun s hs => (h.of_summary hs).1,
    fun failed s hs => (h.of_summary hs).2 failed, sumTotal, sumValid, sumInvalid, sumCounts, fieldErrors, violations,
    counts, Record.get?_tally _, Record.get?_tally _, digest⟩

/--
**A response adds up, and no finding is lost.** Let outcomes of rows, whose findings carry the numbers of their
rows, be cut into batches in any way and pushed in order, and let the file end in any way. Then the response
counts every row once, as valid or invalid, in the file and in each batch, and the counts of the file are the
sums over the batches; a file that failed has no valid row. The response lists every finding, by rows, and
those about a row in their order. Its counts of severities are those of the two lists, and the digest of the
audit record counts the same findings by code and by rule.
-/
theorem close_addsUp (about : FileMeta) (cut : Cut)
    (own : ∀ o ∈ cut.outcomes, (∀ e ∈ o.fieldErrors, e.row = o.row) ∧ ∀ v ∈ o.violations, v.row = o.row)
    (status : FileStatus) (fileError : Option String) :
    (((start about).pushAll cut).close status fileError).AddsUp cut :=
  (gathered_start about).pushAll.addsUp status fileError own

/-- Three rows in two batches of a file that failed; the second row has findings of two sorts. -/
theorem close_addsUp_failed :
    let missing (row : Nat) : FieldError := ⟨row, "amount", .required, .critical, "amount is required"⟩
    let large : Violation := ⟨2, "R1", .warning, .rule, "large"⟩
    let cut : Cut := [(0, [.of 1 [] [], .of 2 [missing 2] [large]]), (1, [.of 3 [missing 3] []])]
    let response := ((start ⟨"day.csv", some .sales, "", []⟩).pushAll cut).close .failed (some "cut off")
    (∀ o ∈ cut.outcomes, (∀ e ∈ o.fieldErrors, e.row = o.row) ∧ ∀ v ∈ o.violations, v.row = o.row) ∧
      response.AddsUp cut ∧ response.totalRows = 3 ∧ response.invalidRows = 3 ∧ response.counts = ⟨2, 1, 0⟩ := by
  intro missing large cut response
  have own : ∀ o ∈ cut.outcomes, (∀ e ∈ o.fieldErrors, e.row = o.row) ∧ ∀ v ∈ o.violations, v.row = o.row := by
    decide
  exact ⟨own, close_addsUp _ cut own .failed (some "cut off"), rfl, rfl, rfl⟩

end Tally

end RecordGate
