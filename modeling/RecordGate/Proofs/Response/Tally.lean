import RecordGate.Response.Audit
import RecordGate.Response.Tally

/-!
# Sums over batches

Apart from the list of its batches, a tally depends on the outcomes that were pushed and not on how they
were cut into batches (`Tally.sums_push`). So does the response that closes it, and its audit record, which
does not mention batches (`Tally.close_sums`, `AuditRecord.of_withoutBatches`).
-/

namespace RecordGate

namespace SeverityCounts

theorem of_append (ss ts : List Severity) : of (ss ++ ts) = of ss + of ts := by
  change _ = add (of ss) (of ts)
  simp only [of, add, List.count_append]

theorem add_assoc (a b c : SeverityCounts) : a + b + c = a + (b + c) := by
  change add (add a b) c = add a (add b c)
  simp only [add, Nat.add_assoc]

end SeverityCounts

namespace Tally

/-- The sums without the list of batches. -/
def sums (t : Tally) : Tally := { t with batches := [] }

/-- The sums over outcomes that were pushed in any batches. -/
def ofOutcomes (about : FileMeta) (outcomes : List RowOutcome) : Tally :=
  ((start about).push (.of 0 outcomes) outcomes).sums

theorem sums_start (about : FileMeta) : (start about).sums = ofOutcomes about [] := rfl

theorem validRows_ofOutcomes (about : FileMeta) (outcomes : List RowOutcome) :
    (ofOutcomes about outcomes).validRows = outcomes.countP (·.isValid) := Nat.zero_add _

/-- A batch more adds its outcomes. -/
theorem sums_push {t : Tally} {about : FileMeta} {outcomes : List RowOutcome} (h : t.sums = ofOutcomes about outcomes)
    (index : Nat) (more : List RowOutcome) :
    (t.push (.of index more) more).sums = ofOutcomes about (outcomes ++ more) := by
  obtain ⟨about', total, valid, invalid, counts, fieldErrors, violations, batches⟩ := t
  simp only [sums, ofOutcomes, push, pushSummary, pushOutcomes, start, BatchSummary.of, mk.injEq, Nat.zero_add,
    List.nil_append, and_true] at h
  obtain ⟨rfl, rfl, rfl, rfl, rfl, rfl, rfl⟩ := h
  have some : outcomes.countP (·.isValid) ≤ outcomes.length := List.countP_le_length
  have others : more.countP (·.isValid) ≤ more.length := List.countP_le_length
  simp only [sums, ofOutcomes, push, pushSummary, pushOutcomes, start, BatchSummary.of, mk.injEq, Nat.zero_add,
    List.nil_append, and_true, List.length_append, List.countP_append, List.flatMap_append, true_and,
    SeverityCounts.of_append, SeverityCounts.add_assoc]
  -- The invalid rows are left, a difference for each batch.
  omega

end Tally

/-- The response without the list of its batches. -/
def Response.withoutBatches (r : Response) : Response := { r with batches := [] }

/-- Closing the sums gives all of the response but its batches. -/
theorem Tally.close_sums (t : Tally) (status : FileStatus) (fileError : Option String) :
    (t.close status fileError).withoutBatches = (t.sums.close status fileError).withoutBatches := rfl

/-- An audit record does not tell the batches. -/
theorem AuditRecord.of_withoutBatches (r : Response) (now : Timestamp) : of r.withoutBatches now = of r now := rfl

end RecordGate
