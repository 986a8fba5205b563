import RecordGate.Proofs.Text.Blank
import RecordGate.Text.Lowercase

/-!
# Lower-cased texts

What a text is lower-cased to has no character that would be changed again, so lower-casing twice is lower-casing
once (`Text.lowercase_lowercase`). No character becomes blank on the way, so a trimmed text stays trimmed
(`Text.trim_lowercase`).

The runs of the case data are compared with each other as intervals: where a run ends up, no run starts.
-/

namespace RecordGate.Text

/-! ## Runs that stay apart -/

namespace CaseRun

variable {r s : CaseRun} {n : Nat}

/-- Where the code point goes that a run moves. -/
def image (r : CaseRun) (n : Nat) : Nat := ((n : Int) + r.shift).toNat

/-- The run covers every other code point, or a single one. -/
def isEven (r : CaseRun) : Bool := r.stride % 2 == 0 || r.first == r.last

/-- Where one run ends up, another does not start: behind it, before it, or between its code points. -/
def avoids (r s : CaseRun) : Bool :=
  (r.image r.last).blt s.first || s.last.blt (r.image r.first) ||
    (r.isEven && s.stride % 2 == 0 && (r.image r.first + s.first) % 2 == 1)

theorem between_of_covers (h : r.covers n = true) : r.first ≤ n ∧ n ≤ r.last := by
  simp only [covers, Bool.and_eq_true, decide_eq_true_eq] at h
  exact h.1

theorem even_of_covers (h : r.covers n = true) (even : r.isEven = true) : (n - r.first) % 2 = 0 := by
  simp only [covers, isEven, Bool.and_eq_true, Bool.or_eq_true, decide_eq_true_eq, beq_iff_eq] at h even
  rcases even with stride | single
  · have divides : 2 ∣ r.stride := Nat.dvd_of_mod_eq_zero stride
    exact Nat.mod_eq_zero_of_dvd (Nat.dvd_trans divides (Nat.dvd_of_mod_eq_zero h.2))
  · omega

theorem not_covers_image (apart : r.avoids s = true) (starts : 0 ≤ (r.first : Int) + r.shift)
    (h : r.covers n = true) : s.covers (r.image n) = false := by
  refine Bool.eq_false_iff.mpr fun covered => ?_
  have inside := between_of_covers h
  have landed := between_of_covers covered
  simp only [avoids, Bool.or_eq_true, Bool.and_eq_true, Nat.blt_eq, beq_iff_eq] at apart
  rcases apart with (behind | before) | ⟨⟨even, stride⟩, odd⟩
  · simp only [image] at behind landed
    omega
  · simp only [image] at before landed
    omega
  · have sourceEven := even_of_covers h even
    have targetEven := even_of_covers covered (by simp [isEven, stride])
    simp only [image] at odd landed targetEven
    omega

end CaseRun

/-! ## Code points that stay -/

/-- What lower-casing changes: the code points of the runs, and capital I with a dot. -/
def changing : List CaseRun := ⟨0x130, 0x130, 1, 0⟩ :: lowerRuns.toList

/-- The blank code points, as runs. -/
def blanks : List CaseRun :=
  [⟨0x09, 0x0D, 1, 0⟩, ⟨0x20, 0x20, 1, 0⟩, ⟨0x85, 0x85, 1, 0⟩, ⟨0xA0, 0xA0, 1, 0⟩, ⟨0x1680, 0x1680, 1, 0⟩,
    ⟨0x2000, 0x200A, 1, 0⟩, ⟨0x2028, 0x2029, 1, 0⟩, ⟨0x202F, 0x202F, 1, 0⟩, ⟨0x205F, 0x205F, 1, 0⟩,
    ⟨0x3000, 0x3000, 1, 0⟩]

/-- No run of the case data ends up where one starts, or at a blank. -/
theorem lowerRuns_apart : (lowerRuns.toList.all fun r =>
    decide (0 ≤ (r.first : Int) + r.shift) && changing.all (r.avoids ·) && blanks.all (r.avoids ·)) = true := by
  decide +kernel

/-- None of the runs covers the code point. -/
def Outside (runs : List CaseRun) (n : Nat) : Prop := ∀ r ∈ runs, r.covers n = false

instance (runs : List CaseRun) (n : Nat) : Decidable (Outside runs n) :=
  inferInstanceAs (Decidable (∀ r ∈ runs, r.covers n = false))

theorem isBlank_eq_false_iff {c : Char} : isBlank c = false ↔ Outside blanks c.toNat := by
  simp only [Outside, blanks, List.forall_mem_cons, CaseRun.covers, isBlank, Nat.mod_one, Bool.or_eq_false_iff,
    Bool.and_eq_false_iff, decide_eq_false_iff_not, beq_eq_false_iff_ne]
  constructor
  · intro h
    refine ⟨?_, ?_, ?_, ?_, ?_, ?_, ?_, ?_, ?_, ?_, List.forall_mem_nil _⟩ <;> omega
  · intro h
    refine ⟨⟨⟨⟨⟨⟨⟨⟨⟨?_, ?_⟩, ?_⟩, ?_⟩, ?_⟩, ?_⟩, ?_⟩, ?_⟩, ?_⟩, ?_⟩ <;> omega

/-- A code point is moved by a run that covers it, or stays where none does. -/
theorem applyRuns_cases (runs : Array CaseRun) (n : Nat) :
    (∃ r ∈ runs.toList, r.covers n = true ∧ applyRuns runs n = r.image n) ∨
      Outside runs.toList n ∧ applyRuns runs n = n := by
  unfold applyRuns
  cases found : runs.find? (CaseRun.covers · n) with
  | some r =>
    have mem : r ∈ runs.toList := Array.mem_toList_iff.mpr (Array.mem_of_find?_eq_some found)
    exact .inl ⟨r, mem, Array.find?_some (p := (CaseRun.covers · n)) found, rfl⟩
  | none =>
    refine .inr ⟨fun r mem => ?_, rfl⟩
    exact Bool.eq_false_iff.mpr (Array.find?_eq_none.mp found r (Array.mem_toList_iff.mp mem))

/-- What a code point is moved to is not moved again, and is blank only if it was. -/
theorem outside_applyRuns {n : Nat} (dotted : n ≠ 0x130) :
    Outside changing (applyRuns lowerRuns n) ∧ (Outside blanks n → Outside blanks (applyRuns lowerRuns n)) := by
  rcases applyRuns_cases lowerRuns n with ⟨r, mem, covered, moved⟩ | ⟨outside, stays⟩
  · have apart := List.all_eq_true.mp lowerRuns_apart r mem
    simp only [Bool.and_eq_true, decide_eq_true_eq, List.all_eq_true] at apart
    obtain ⟨⟨starts, others⟩, visible⟩ := apart
    rw [moved]
    constructor
    · exact fun s hs => CaseRun.not_covers_image (others s hs) starts covered
    · exact fun _ s hs => CaseRun.not_covers_image (visible s hs) starts covered
  · rw [stays]
    refine ⟨List.forall_mem_cons.mpr ⟨?_, outside⟩, id⟩
    refine Bool.eq_false_iff.mpr fun covered => dotted ?_
    obtain ⟨least, most⟩ := CaseRun.between_of_covers covered
    exact Nat.le_antisymm most least

/-! ## Characters -/

/-- The character is its own lower-case form, wherever it stands. -/
def IsLower (c : Char) : Prop := c ≠ 'Σ' ∧ lowerChar c = [c]

/-- Of the characters of ASCII only the capital letters change. -/
theorem outside_ascii {n : Nat} (ascii : n < 0x80) : Outside changing n ↔ n < 0x41 ∨ 0x5A < n := by
  have capitals : ∀ r ∈ changing, 0x80 ≤ r.first ∨ r.first = 0x41 ∧ r.last = 0x5A := by decide +kernel
  constructor
  · intro h
    obtain ⟨r, mem, first, last, stride⟩ :
        ∃ r ∈ changing, r.first = 0x41 ∧ r.last = 0x5A ∧ r.stride = 1 := by decide +kernel
    have apart := h r mem
    simp only [CaseRun.covers, first, last, stride, Nat.mod_one, beq_self_eq_true, Bool.and_true,
      Bool.and_eq_false_iff, decide_eq_false_iff_not] at apart
    omega
  · intro small r mem
    refine Bool.eq_false_iff.mpr fun covered => ?_
    have between := CaseRun.between_of_covers covered
    have := capitals r mem
    omega

/-- The lower-case forms of ASCII are characters of ASCII that do not change. -/
theorem toLower_ascii : ∀ n < 0x80, (Char.ofNat n).toLower.toNat < 0x80 ∧
    ((Char.ofNat n).toLower.toNat < 0x41 ∨ 0x5A < (Char.ofNat n).toLower.toNat) ∧
    (isBlank (Char.ofNat n) = false → isBlank (Char.ofNat n).toLower = false) := by
  decide +kernel

theorem isLower_of_outside {c : Char} (h : Outside changing c.toNat) : IsLower c := by
  constructor
  · rintro rfl
    exact absurd h (by decide +kernel)
  · have dotted : ¬(c.toNat == 0x130) = true := by
      intro same
      rw [beq_iff_eq.mp same] at h
      exact absurd h (by decide +kernel)
    rw [lowerChar, if_neg dotted]
    split
    · next ascii =>
      have small := (outside_ascii ascii).mp h
      have stays : c.toLower = c := by
        refine dif_neg fun capital => ?_
        have least : 0x41 ≤ c.toNat := UInt32.le_iff_toNat_le.mp capital.1
        have most : c.toNat ≤ 0x5A := UInt32.le_iff_toNat_le.mp capital.2
        omega
      rw [stays]
    · rcases applyRuns_cases lowerRuns c.toNat with ⟨r, mem, covered, -⟩ | ⟨-, stays⟩
      · rw [h r (List.mem_cons_of_mem _ mem)] at covered
        cases covered
      · rw [stays, Char.ofNat_toNat]

/-- The character of a code point, or the null character where there is none. -/
theorem toNat_ofNat_cases (n : Nat) : (Char.ofNat n).toNat = n ∨ Char.ofNat n = Char.ofNat 0 := by
  by_cases valid : n.isValidChar
  · exact .inl (by rw [Char.ofNat, dif_pos valid]; rfl)
  · exact .inr (by rw [Char.ofNat, dif_neg valid]; rfl)

/-- **What a character is lower-cased to is lower-cased**, and is blank only if the character was. -/
theorem isLower_of_mem_lowerChar {c d : Char} (h : d ∈ lowerChar c) :
    IsLower d ∧ (isBlank c = false → isBlank d = false) := by
  unfold lowerChar at h
  split at h
  · next ascii =>
    obtain rfl := List.mem_singleton.mp h
    have lower := toLower_ascii c.toNat ascii
    rw [Char.ofNat_toNat] at lower
    exact ⟨isLower_of_outside ((outside_ascii lower.1).mpr lower.2.1), lower.2.2⟩
  · split at h
    · rcases List.mem_pair.mp h with rfl | rfl
      · exact ⟨isLower_of_outside (by decide +kernel), fun _ => rfl⟩
      · exact ⟨isLower_of_outside (by decide +kernel), fun _ => rfl⟩
    · next dotted =>
      obtain ⟨settled, visible⟩ := outside_applyRuns fun same => dotted (beq_iff_eq.mpr same)
      rw [List.mem_singleton] at h
      rcases toNat_ofNat_cases (applyRuns lowerRuns c.toNat) with same | null
      · rw [← same, ← h] at settled visible
        exact ⟨isLower_of_outside settled, fun h => isBlank_eq_false_iff.mpr (visible (isBlank_eq_false_iff.mp h))⟩
      · rw [h, null]
        exact ⟨isLower_of_outside (by decide +kernel), fun _ => rfl⟩

theorem lowerChar_ne_nil (c : Char) : lowerChar c ≠ [] := by
  unfold lowerChar
  split
  · exact List.cons_ne_nil _ _
  · split <;> exact List.cons_ne_nil _ _

/-! ## Texts -/

/-- What one character of a text is lower-cased to, by what stands around it. -/
def lowerAt (before : List Char) (c : Char) (rest : List Char) : List Char :=
  if c == 'Σ' then [if meetsCased before && !meetsCased rest then 'ς' else 'σ'] else lowerChar c

theorem lowercaseFrom_cons (before : List Char) (c : Char) (rest : List Char) :
    lowercaseFrom before (c :: rest) = lowerAt before c rest ++ lowercaseFrom (c :: before) rest := rfl

theorem isLower_of_mem_lowerAt {before rest : List Char} {c d : Char} (h : d ∈ lowerAt before c rest) :
    IsLower d ∧ (isBlank c = false → isBlank d = false) := by
  unfold lowerAt at h
  split at h
  · rw [List.mem_singleton] at h
    subst h
    split
    · exact ⟨isLower_of_outside (by decide +kernel), fun _ => by decide⟩
    · exact ⟨isLower_of_outside (by decide +kernel), fun _ => by decide⟩
  · exact isLower_of_mem_lowerChar h

theorem lowerAt_ne_nil (before : List Char) (c : Char) (rest : List Char) : lowerAt before c rest ≠ [] := by
  unfold lowerAt
  split
  · exact List.cons_ne_nil _ _
  · exact lowerChar_ne_nil c

theorem lowercaseFrom_of_isLower {cs : List Char} (h : ∀ c ∈ cs, IsLower c) (before : List Char) :
    lowercaseFrom before cs = cs := by
  induction cs generalizing before with
  | nil => rfl
  | cons c cs ih =>
    obtain ⟨⟨other, stays⟩, rest⟩ := List.forall_mem_cons.mp h
    have single : lowerAt before c cs = [c] := by rw [lowerAt, if_neg (by simpa using other), stays]
    rw [lowercaseFrom_cons, single, ih rest]
    rfl

theorem isLower_of_mem_lowercaseFrom {before cs : List Char} {d : Char} (h : d ∈ lowercaseFrom before cs) :
    IsLower d := by
  induction cs generalizing before with
  | nil => cases h
  | cons c cs ih =>
    rw [lowercaseFrom_cons] at h
    rcases List.mem_append.mp h with here | later
    · exact (isLower_of_mem_lowerAt here).1
    · exact ih later

/-- **Lower-casing twice is lower-casing once.** -/
theorem lowercase_lowercase (s : String) : lowercase (lowercase s) = lowercase s := by
  rw [lowercase, lowercase, String.toList_ofList, lowercaseFrom_of_isLower fun _ => isLower_of_mem_lowercaseFrom]

/-! ## Trimming -/

/-- Neither the first nor the last character is blank. -/
def IsTrimmed (cs : List Char) : Prop :=
  (∀ c ∈ cs.head?, isBlank c = false) ∧ ∀ c ∈ cs.getLast?, isBlank c = false

theorem trimChars_of_isTrimmed {cs : List Char} (h : IsTrimmed cs) : trimChars cs = cs := by
  have front : cs.dropWhile isBlank = cs := by
    cases cs with
    | nil => rfl
    | cons c cs => exact List.dropWhile_cons_of_neg (Bool.eq_false_iff.mp (h.1 c rfl))
  rw [trimChars_eq, front, List.rdropWhile_eq_self_iff]
  exact fun filled => Bool.eq_false_iff.mp (h.2 _ (List.getLast?_eq_getLast_of_ne_nil filled))

theorem isTrimmed_trimChars (cs : List Char) : IsTrimmed (trimChars cs) := by
  constructor
  · intro c front
    have settled : (trimChars cs).dropWhile isBlank = trimChars cs :=
      dropWhile_of_prefix (List.rdropWhile_prefix isBlank _) (List.dropWhile_idempotent isBlank cs)
    obtain ⟨rest, form⟩ : ∃ rest, trimChars cs = c :: rest := List.head?_eq_some_iff.mp front
    rw [form] at settled
    exact Bool.eq_false_iff.mpr (List.dropWhile_eq_self_iff.mp settled (Nat.succ_pos _))
  · intro c back
    have filled : trimChars cs ≠ [] := List.ne_nil_of_mem (List.mem_of_getLast? back)
    rw [List.getLast?_eq_getLast_of_ne_nil filled] at back
    cases back
    exact Bool.eq_false_iff.mpr (List.rdropWhile_last_not isBlank _ filled)

theorem visible_head {before cs : List Char} (h : ∀ c ∈ cs.head?, isBlank c = false) :
    ∀ d ∈ (lowercaseFrom before cs).head?, isBlank d = false := by
  intro d front
  cases cs with
  | nil => cases front
  | cons c cs =>
    rw [lowercaseFrom_cons, List.head?_append_of_ne_nil _ (lowerAt_ne_nil before c cs)] at front
    exact (isLower_of_mem_lowerAt (List.mem_of_mem_head? front)).2 (h c rfl)

theorem visible_getLast {before cs : List Char} (h : ∀ c ∈ cs.getLast?, isBlank c = false) :
    ∀ d ∈ (lowercaseFrom before cs).getLast?, isBlank d = false := by
  intro d back
  induction cs generalizing before with
  | nil => cases back
  | cons c cs ih =>
    rw [lowercaseFrom_cons] at back
    cases cs with
    | nil =>
      rw [lowercaseFrom, List.append_nil] at back
      exact (isLower_of_mem_lowerAt (List.mem_of_getLast? back)).2 (h c rfl)
    | cons next cs =>
      have filled : lowercaseFrom (c :: before) (next :: cs) ≠ [] := by
        rw [lowercaseFrom_cons]
        exact List.append_ne_nil_of_left_ne_nil (lowerAt_ne_nil _ _ _) _
      rw [List.getLast?_append_of_ne_nil _ filled] at back
      exact ih (fun e last => h e (by rwa [List.getLast?_cons_cons])) back

/-- A trimmed text is trimmed in small letters. -/
theorem trim_lowercase {s : String} (h : trim s = s) : trim (lowercase s) = lowercase s := by
  have trimmed : IsTrimmed s.toList := by
    have form : trimChars s.toList = s.toList := by
      rw [← String.toList_ofList (l := trimChars s.toList)]
      exact congrArg String.toList h
    exact form ▸ isTrimmed_trimChars s.toList
  have lower : IsTrimmed (lowercaseFrom [] s.toList) := ⟨visible_head trimmed.1, visible_getLast trimmed.2⟩
  rw [trim, lowercase, String.toList_ofList, trimChars_of_isTrimmed lower]

end RecordGate.Text
