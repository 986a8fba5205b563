import Mathlib.Data.List.Perm.Basic
import RecordGate.Proofs.Response.Additivity
import RecordGate.Proofs.Sorting

/-!
# Batches in any order of arrival

A tally only adds, and closing it puts its lists in order, so the order in which batches arrive does not matter
(`Tally.close_any_arrival`). Pushing batches one by one comes to the same as taking all summaries and then all
outcomes (`Tally.close_pushBatches`), whose orders matter no more. The numbers are sums (`Tally.totals_foldl_perm`).
Of the findings, those about one row come from one outcome and keep their order; where outcomes are told apart by
their rows, there is only one list of all findings (`RowOutcome.Listed.eq_of_perm`).
-/

namespace RecordGate

/-! ## Findings about rows in any order -/

namespace RowOutcome

variable {α : Type} {row : α → Nat} {found : RowOutcome → List α} {outcomes outcomes' : List RowOutcome}
  {listed listed' : List α}

/-- The outcome of a row is found in any order, as there is no other of the row. -/
theorem filter_row_perm (perm : outcomes'.Perm outcomes) (apart : (outcomes.map (·.row)).Nodup) (n : Nat) :
    outcomes'.filter (·.row = n) = outcomes.filter (·.row = n) := by
  have trivially (l : List RowOutcome) : l.Pairwise fun _ _ => True := List.pairwise_of_forall fun _ _ => trivial
  refine List.Perm.eq_of_pairwise ?_ (trivially _) (trivially _) (perm.filter _)
  intro o p ho hp _ _
  obtain ⟨ho, here⟩ := List.mem_filter.mp ho
  obtain ⟨hp, there⟩ := List.mem_filter.mp hp
  have same : o.row = p.row := (of_decide_eq_true here).trans (of_decide_eq_true there).symm
  exact List.inj_on_of_nodup_map apart (perm.mem_iff.mp ho) hp same

/-- **The findings about rows are listed in one way**, in whatever order the outcomes come. -/
theorem Listed.eq_of_perm (h : Listed row found outcomes listed) (h' : Listed row found outcomes' listed')
    (perm : outcomes'.Perm outcomes) (apart : (outcomes.map (·.row)).Nodup) : listed' = listed := by
  refine eq_of_levels h'.byRow h.byRow fun n => ?_
  rw [h'.ownOrder, h.ownOrder, filter_row_perm perm apart]

end RowOutcome

/-! ## Sums in any order -/

theorem SeverityCounts.add_right_comm (a b c : SeverityCounts) : a + b + c = a + c + b := by
  change add (add a b) c = add (add a c) b
  simp only [add, Nat.add_right_comm]

namespace Tally

variable {t : Tally} {about : FileMeta} {summaries summaries' : List BatchSummary} {outcomes outcomes' : List RowOutcome}

/-- The numbers of a tally, without its lists. -/
def totals (t : Tally) : Tally := { t with fieldErrors := [], violations := [], batches := [] }

/-- Two summaries add the same in either order. -/
theorem totals_pushSummary_comm (t : Tally) (s s' : BatchSummary) :
    ((t.pushSummary s).pushSummary s').totals = ((t.pushSummary s').pushSummary s).totals := by
  simp only [totals, pushSummary, Nat.add_right_comm, SeverityCounts.add_right_comm]

/-- What summaries add depends on the numbers before them only. -/
theorem totals_foldl (t : Tally) (summaries : List BatchSummary) :
    (summaries.foldl pushSummary t).totals = (summaries.foldl pushSummary t.totals).totals := by
  induction summaries generalizing t with
  | nil => rfl
  | cons s rest ih => exact (ih (t.pushSummary s)).trans (ih (t.totals.pushSummary s)).symm

/-- **Summaries add up to the same in any order.** -/
theorem totals_foldl_perm (perm : summaries'.Perm summaries) (t : Tally) :
    (summaries'.foldl pushSummary t).totals = (summaries.foldl pushSummary t).totals := by
  induction perm generalizing t with
  | nil => rfl
  | cons s _ ih => exact ih (t.pushSummary s)
  | swap s s' rest =>
    rw [List.foldl_cons, List.foldl_cons, List.foldl_cons, List.foldl_cons, totals_foldl, totals_pushSummary_comm,
      ← totals_foldl]
  | trans _ _ first second => exact (first t).trans (second t)

theorem batches_foldl (t : Tally) (summaries : List BatchSummary) :
    (summaries.foldl pushSummary t).batches = t.batches ++ summaries := by
  induction summaries generalizing t with
  | nil => exact (List.append_nil _).symm
  | cons s rest ih => exact (ih (t.pushSummary s)).trans (List.append_assoc _ _ _)

theorem findings_foldl (t : Tally) (summaries : List BatchSummary) :
    (summaries.foldl pushSummary t).fieldErrors = t.fieldErrors ∧
      (summaries.foldl pushSummary t).violations = t.violations := by
  induction summaries generalizing t with
  | nil => exact ⟨rfl, rfl⟩
  | cons s rest ih => exact ih (t.pushSummary s)

end Tally

/-! ## The response -/

section Response

variable {about : FileMeta} {summaries summaries' : List BatchSummary} {outcomes outcomes' : List RowOutcome}
  {status : FileStatus} {fileError : Option String}

/-- A response is told by the numbers of its tally and by its own lists. -/
theorem Tally.close_congr {t t' : Tally} (numbers : t'.totals = t.totals)
    (fieldErrors : (t'.close status fileError).fieldErrors = (t.close status fileError).fieldErrors)
    (violations : (t'.close status fileError).violations = (t.close status fileError).violations)
    (batches : (t'.close status fileError).batches = (t.close status fileError).batches) :
    t'.close status fileError = t.close status fileError := by
  have parts (t : Tally) : t.close status fileError =
      { t.totals.close status fileError with
        fieldErrors := (t.close status fileError).fieldErrors
        violations := (t.close status fileError).violations
        batches := (t.close status fileError).batches } := rfl
  rw [parts t', parts t, numbers, fieldErrors, violations, batches]

/-- What a response is made of that takes all summaries and all outcomes at once. -/
theorem Response.of_parts (about : FileMeta) (summaries : List BatchSummary) (outcomes : List RowOutcome) :
    let t := (summaries.foldl Tally.pushSummary (.start about)).pushOutcomes outcomes
    t.totals = (summaries.foldl Tally.pushSummary (.start about)).totals ∧
      t.fieldErrors = outcomes.flatMap (·.fieldErrors) ∧ t.violations = outcomes.flatMap (·.violations) ∧
      t.batches = summaries := by
  obtain ⟨fieldErrors, violations⟩ := Tally.findings_foldl (.start about) summaries
  refine ⟨rfl, ?_, ?_, Tally.batches_foldl (.start about) summaries⟩
  · exact congrArg (· ++ outcomes.flatMap (·.fieldErrors)) fieldErrors
  · exact congrArg (· ++ outcomes.flatMap (·.violations)) violations

/-- **A response is the same whatever the order of its summaries and of its outcomes.** -/
theorem Response.of_perm (summed : summaries'.Perm summaries) (judged : outcomes'.Perm outcomes)
    (indexes : (summaries.map (·.index)).Nodup) (rows : (outcomes.map (·.row)).Nodup)
    (own : ∀ o ∈ outcomes, (∀ e ∈ o.fieldErrors, e.row = o.row) ∧ ∀ v ∈ o.violations, v.row = o.row) :
    of about summaries' outcomes' status fileError = of about summaries outcomes status fileError := by
  have own' : ∀ o ∈ outcomes', (∀ e ∈ o.fieldErrors, e.row = o.row) ∧ ∀ v ∈ o.violations, v.row = o.row :=
    fun o ho => own o (judged.mem_iff.mp ho)
  obtain ⟨numbers, fieldErrors, violations, batches⟩ := of_parts about summaries outcomes
  obtain ⟨numbers', fieldErrors', violations', batches'⟩ := of_parts about summaries' outcomes'
  apply Tally.close_congr
  · exact numbers'.trans ((Tally.totals_foldl_perm summed _).trans numbers.symm)
  · simp only [Tally.close, fieldErrors, fieldErrors']
    exact (RowOutcome.listed_mergeSort fun o ho => (own o ho).1).eq_of_perm
      (RowOutcome.listed_mergeSort fun o ho => (own' o ho).1) judged rows
  · simp only [Tally.close, violations, violations']
    exact (RowOutcome.listed_mergeSort fun o ho => (own o ho).2).eq_of_perm
      (RowOutcome.listed_mergeSort fun o ho => (own' o ho).2) judged rows
  · have sorted := mergeSort_eq_of_perm summed (List.inj_on_of_nodup_map ((summed.map _).nodup_iff.mpr indexes))
    simp only [Tally.close, batches, batches', sorted]

end Response

namespace Tally

variable {about : FileMeta}

/-- Pushes batches in the order of their arrival, each with its summary. -/
def pushBatches (t : Tally) (batches : List (BatchSummary × List RowOutcome)) : Tally :=
  batches.foldl (fun t b => t.push b.1 b.2) t

theorem pushOutcomes_pushOutcomes (t : Tally) (outcomes more : List RowOutcome) :
    (t.pushOutcomes outcomes).pushOutcomes more = t.pushOutcomes (outcomes ++ more) := by
  simp only [pushOutcomes, List.flatMap_append, List.append_assoc]

/-- Summaries may be pushed before outcomes. -/
theorem foldl_pushSummary_pushOutcomes (t : Tally) (outcomes : List RowOutcome) (summaries : List BatchSummary) :
    summaries.foldl pushSummary (t.pushOutcomes outcomes) = (summaries.foldl pushSummary t).pushOutcomes outcomes := by
  induction summaries generalizing t with
  | nil => rfl
  | cons s rest ih => exact ih (t.pushSummary s)

/-- Batches may be pushed as all summaries and then all outcomes. -/
theorem pushBatches_eq (t : Tally) (batches : List (BatchSummary × List RowOutcome)) :
    t.pushBatches batches = ((batches.map (·.1)).foldl pushSummary t).pushOutcomes (batches.flatMap (·.2)) := by
  induction batches generalizing t with
  | nil => simp [pushBatches, pushOutcomes]
  | cons b rest ih =>
    change (t.push b.1 b.2).pushBatches rest = _
    rw [ih, push, foldl_pushSummary_pushOutcomes, pushOutcomes_pushOutcomes]
    rfl

/-- The response to batches is that to their summaries and outcomes. -/
theorem close_pushBatches (about : FileMeta) (batches : List (BatchSummary × List RowOutcome)) (status : FileStatus)
    (fileError : Option String) :
    ((start about).pushBatches batches).close status fileError =
      .of about (batches.map (·.1)) (batches.flatMap (·.2)) status fileError := by
  rw [pushBatches_eq]
  rfl

/--
**The order in which batches arrive does not matter.** Let the batches be told apart by their numbers and the
outcomes by their rows, and let the findings carry the numbers of their rows. However the batches are ordered, and
however a file ends, they give one response; and the same response is given to their summaries and their outcomes,
in any order of the one and of the other.
-/
theorem close_any_arrival (about : FileMeta) {batches : List (BatchSummary × List RowOutcome)}
    (indexes : (batches.map (·.1.index)).Nodup) (rows : ((batches.flatMap (·.2)).map (·.row)).Nodup)
    (own : ∀ o ∈ batches.flatMap (·.2), (∀ e ∈ o.fieldErrors, e.row = o.row) ∧ ∀ v ∈ o.violations, v.row = o.row)
    (status : FileStatus) (fileError : Option String) :
    let response := ((start about).pushBatches batches).close status fileError
    (∀ arrived, arrived.Perm batches → ((start about).pushBatches arrived).close status fileError = response) ∧
      ∀ summaries outcomes, summaries.Perm (batches.map (·.1)) → outcomes.Perm (batches.flatMap (·.2)) →
        .of about summaries outcomes status fileError = response := by
  have indexes : ((batches.map (·.1)).map (·.index)).Nodup := by
    rw [List.map_map]
    exact indexes
  intro response
  have whole : response = .of about (batches.map (·.1)) (batches.flatMap (·.2)) status fileError :=
    close_pushBatches about batches status fileError
  refine ⟨fun arrived perm => ?_, fun summaries outcomes summed judged => ?_⟩
  · rw [whole, close_pushBatches]
    exact Response.of_perm (perm.map _) (perm.flatMap_right _) indexes rows own
  · rw [whole]
    exact Response.of_perm summed judged indexes rows own

/-- Three batches whose last comes first, one row having several findings; and their outcomes backwards. -/
theorem close_any_arrival_last_first :
    let missing (row : Nat) (field : String) : FieldError := ⟨row, field, .required, .critical, field ++ " is required"⟩
    let large : Violation := ⟨2, "R1", .warning, .rule, "large"⟩
    let first : List RowOutcome := [.of 1 [] [], .of 2 [missing 2 "store", missing 2 "amount"] [large]]
    let second : List RowOutcome := [.of 3 [missing 3 "amount"] []]
    let third : List RowOutcome := [.of 4 [missing 4 "store"] []]
    let batches := [(BatchSummary.of 0 first, first), (.of 1 second, second), (.of 2 third, third)]
    let about : FileMeta := ⟨"day.csv", some .sales, "", []⟩
    let response := ((start about).pushBatches batches).close .failed (some "cut off")
    response.fieldErrors = [missing 2 "store", missing 2 "amount", missing 3 "amount", missing 4 "store"] ∧
      ((start about).pushBatches [(.of 2 third, third), (.of 0 first, first), (.of 1 second, second)]).close
        .failed (some "cut off") = response ∧
      .of about [.of 1 second, .of 2 third, .of 0 first] (third ++ second ++ first.reverse) .failed (some "cut off") =
        response := by
  intro missing large first second third batches about response
  have indexes : (batches.map (·.1.index)).Nodup := by decide
  have rows : ((batches.flatMap (·.2)).map (·.row)).Nodup := by decide
  have own : ∀ o ∈ batches.flatMap (·.2),
      (∀ e ∈ o.fieldErrors, e.row = o.row) ∧ ∀ v ∈ o.violations, v.row = o.row := by decide
  obtain ⟨arrivals, orders⟩ := close_any_arrival about indexes rows own .failed (some "cut off")
  exact ⟨List.mergeSort_of_pairwise (by decide), arrivals _ (by decide), orders _ _ (by decide) (by decide)⟩

end Tally

end RecordGate
