import Mathlib.Data.List.DropRight
import RecordGate.Text.Blank

/-!
# Trimming

A trimmed text has no blank at either end, so trimming it again changes nothing (`Text.trim_trim`). A text
without blanks is trimmed as it stands (`Text.trimChars_of_solid`).
-/

namespace RecordGate.Text

/-- No character is blank. -/
def IsSolid (cs : List Char) : Prop := ∀ c ∈ cs, isBlank c = false

variable {cs ds : List Char}

theorem IsSolid.append (h : IsSolid cs) (h' : IsSolid ds) : IsSolid (cs ++ ds) :=
  List.forall_mem_append.mpr ⟨h, h'⟩

theorem IsSolid.cons {c : Char} (h : isBlank c = false) (h' : IsSolid cs) : IsSolid (c :: cs) :=
  List.forall_mem_cons.mpr ⟨h, h'⟩

theorem isSolid_nil : IsSolid [] := nofun

theorem isBlank_of_isDigit {c : Char} (h : c.isDigit = true) : isBlank c = false := by
  rw [Char.isDigit, Bool.and_eq_true, decide_eq_true_eq, decide_eq_true_eq] at h
  have low : 48 ≤ c.toNat := h.1
  have high : c.toNat ≤ 57 := h.2
  simp only [isBlank, Bool.or_eq_false_iff, Bool.and_eq_false_iff, decide_eq_false_iff_not, beq_eq_false_iff_ne]
  omega

theorem isSolid_of_digits (h : ∀ c ∈ cs, c.isDigit = true) : IsSolid cs := fun c hc => isBlank_of_isDigit (h c hc)

theorem dropWhile_of_solid (h : IsSolid cs) : cs.dropWhile isBlank = cs := by
  cases cs with
  | nil => rfl
  | cons c cs => exact List.dropWhile_cons_of_neg (by rw [h c List.mem_cons_self]; exact Bool.false_ne_true)

/-- A text without blanks is trimmed as it stands. -/
theorem trimChars_of_solid (h : IsSolid cs) : trimChars cs = cs := by
  have backwards : IsSolid cs.reverse := fun c hc => h c (List.mem_reverse.mp hc)
  rw [trimChars, dropWhile_of_solid h, dropWhile_of_solid backwards, List.reverse_reverse]

theorem trimChars_ofList (h : IsSolid cs) : trimChars (String.ofList cs).toList = cs := by
  rw [String.toList_ofList, trimChars_of_solid h]

theorem isBlankText_of_solid (h : IsSolid cs) (filled : cs ≠ []) : isBlankText (String.ofList cs) = false := by
  obtain ⟨c, rest, rfl⟩ := List.exists_cons_of_ne_nil filled
  rw [isBlankText, String.toList_ofList, List.all_cons, h c List.mem_cons_self, Bool.false_and]

theorem trimChars_eq (cs : List Char) : trimChars cs = (cs.dropWhile isBlank).rdropWhile isBlank := rfl

/-- A beginning of a text that does not begin with a blank does not begin with one. -/
theorem dropWhile_of_prefix (beginning : ds <+: cs) (h : cs.dropWhile isBlank = cs) : ds.dropWhile isBlank = ds := by
  obtain ⟨rest, rfl⟩ := beginning
  cases ds with
  | nil => rfl
  | cons c ds =>
    have front := List.dropWhile_eq_self_iff.mp h (Nat.succ_pos _)
    exact List.dropWhile_cons_of_neg front

/-- **Trimming twice is trimming once.** -/
theorem trimChars_trimChars (cs : List Char) : trimChars (trimChars cs) = trimChars cs := by
  have front : (trimChars cs).dropWhile isBlank = trimChars cs :=
    dropWhile_of_prefix (List.rdropWhile_prefix isBlank _) (List.dropWhile_idempotent isBlank cs)
  rw [trimChars_eq (trimChars cs), front, trimChars_eq, List.rdropWhile_idempotent]

theorem trim_trim (s : String) : trim (trim s) = trim s := by
  rw [trim, trim, String.toList_ofList, trimChars_trimChars]

/-- Trimming leaves something of a text that is not blank. -/
theorem isBlankText_trim {s : String} (h : isBlankText s = false) : isBlankText (trim s) = false := by
  rw [isBlankText, trim, String.toList_ofList]
  refine Bool.eq_false_iff.mpr fun blank => ?_
  by_cases left : trimChars s.toList = []
  · rw [trimChars_eq, List.rdropWhile_eq_nil_iff] at left
    have gone := (List.dropWhile_idempotent isBlank s.toList).symm.trans (List.dropWhile_eq_nil_iff.mpr left)
    have all : s.toList.all isBlank = true := List.all_eq_true.mpr (List.dropWhile_eq_nil_iff.mp gone)
    exact Bool.false_ne_true (h.symm.trans all)
  · exact List.rdropWhile_last_not isBlank _ left (List.all_eq_true.mp blank _ (List.getLast_mem left))

end RecordGate.Text
