/-!
# Sorting by a key

Sorting puts the keys in ascending order. Where a key tells the elements of a list apart, there is only one
such order, so that the order before sorting does not matter. Where it does not, an ascending list is still told by
what stands in it under each key (`eq_of_levels`).
-/

namespace RecordGate

/-- The places of a list stand in ascending order. -/
theorem ascending_zipIdx {α : Type} (l : List α) : l.zipIdx.Pairwise fun a b => a.2 < b.2 := by
  refine List.pairwise_map.mp ?_
  rw [List.zipIdx_map_snd]
  exact List.pairwise_lt_range'

/-! ## Elements under one key -/

section Levels

variable {α κ : Type} [DecidableEq κ] {key : α → κ} {l l' : List α}

theorem mem_of_levels (levels : ∀ k, l.filter (key · = k) = l'.filter (key · = k)) {a : α} (ha : a ∈ l) : a ∈ l' := by
  have level : a ∈ l.filter (key · = key a) := List.mem_filter.mpr ⟨ha, decide_eq_true rfl⟩
  rw [levels (key a)] at level
  exact (List.mem_filter.mp level).1

/-- A list in ascending order is told by what stands in it under each key, and in which order. -/
theorem eq_of_levels [LE κ] [Std.IsLinearOrder κ] (ascending : l.Pairwise fun a b => key a ≤ key b)
    (ascending' : l'.Pairwise fun a b => key a ≤ key b)
    (levels : ∀ k, l.filter (key · = k) = l'.filter (key · = k)) : l = l' := by
  induction l generalizing l' with
  | nil => exact (List.eq_nil_iff_forall_not_mem.mpr fun a ha => nomatch mem_of_levels (fun k => (levels k).symm) ha).symm
  | cons a rest ih =>
    have ha := mem_of_levels levels List.mem_cons_self
    cases l' with
    | nil => cases ha
    | cons b rest' =>
      have hb := mem_of_levels (fun k => (levels k).symm) List.mem_cons_self
      obtain ⟨least, tail⟩ := List.pairwise_cons.mp ascending
      obtain ⟨least', tail'⟩ := List.pairwise_cons.mp ascending'
      -- Each list starts with a least key, so both start with the same key, and then with the same element.
      have le : key a ≤ key b := (List.mem_cons.mp hb).elim (fun same => same ▸ Std.le_refl _) (least b)
      have ge : key b ≤ key a := (List.mem_cons.mp ha).elim (fun same => same ▸ Std.le_refl _) (least' a)
      have first := levels (key a)
      rw [List.filter_cons_of_pos (by simp), List.filter_cons_of_pos (by simp [Std.le_antisymm ge le])] at first
      obtain ⟨rfl, -⟩ := List.cons.inj first
      refine congrArg (a :: ·) (ih tail tail' fun k => ?_)
      have level := levels k
      rw [List.filter_cons, List.filter_cons] at level
      split at level
      · exact (List.cons.inj level).2
      · exact level

end Levels

/-! ## One ascending order -/

variable {α κ : Type} [LE κ] [Std.IsLinearOrder κ] [DecidableLE κ] {key : α → κ} {l l' : List α}

theorem ascending_mergeSort (key : α → κ) (l : List α) :
    (l.mergeSort fun a b => key a ≤ key b).Pairwise fun a b => key a ≤ key b := by
  refine (List.pairwise_mergeSort ?_ ?_ l).imp of_decide_eq_true
  · intro a b c ab bc
    exact decide_eq_true (Std.le_trans (of_decide_eq_true ab) (of_decide_eq_true bc))
  · intro a b
    rw [Bool.or_eq_true, decide_eq_true_eq, decide_eq_true_eq]
    exact Std.le_total

/-- A list is sorted to every list of the same elements that is in ascending order. -/
theorem mergeSort_eq_of_ascending (perm : l.Perm l') (apart : ∀ ⦃a⦄, a ∈ l → ∀ ⦃b⦄, b ∈ l → key a = key b → a = b)
    (ascending : l'.Pairwise fun a b => key a ≤ key b) : (l.mergeSort fun a b => key a ≤ key b) = l' := by
  have sorted := List.mergeSort_perm l fun a b => key a ≤ key b
  refine List.Perm.eq_of_pairwise ?_ (ascending_mergeSort key l) ascending (sorted.trans perm)
  intro a b ha hb le ge
  exact apart (sorted.mem_iff.mp ha) (perm.mem_iff.mpr hb) (Std.le_antisymm le ge)

/-- Lists of the same elements are sorted to the same list. -/
theorem mergeSort_eq_of_perm (perm : l.Perm l') (apart : ∀ ⦃a⦄, a ∈ l → ∀ ⦃b⦄, b ∈ l → key a = key b → a = b) :
    (l.mergeSort fun a b => key a ≤ key b) = l'.mergeSort fun a b => key a ≤ key b := by
  refine mergeSort_eq_of_ascending (perm.trans ?_) apart (ascending_mergeSort key l')
  exact (List.mergeSort_perm l' fun a b => key a ≤ key b).symm

end RecordGate
