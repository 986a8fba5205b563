import RecordGate.Proofs.Except
import RecordGate.Proofs.Json.Numbers

/-!
# Reading gaps and strings

Gaps are skipped whatever follows them (`Json.skipGaps_append`). What is read as a string is a string of the
grammar, escape by escape, and it is read in the same way whatever follows it (`Json.string_sound`).
-/

namespace RecordGate.Json

/-! ## Gaps -/

section Gaps

variable {g t input : Bytes} {b : UInt8}

theorem skipGaps_append (h : IsGap g) (t : Bytes) : skipGaps (g ++ t) = skipGaps t := by
  induction g with
  | nil => rfl
  | cons b rest ih =>
    obtain ⟨gap, gaps⟩ := Bool.and_eq_true_iff.mp h
    rw [← ih gaps, skipGaps, List.cons_append, List.dropWhile_cons, gap]
    rfl

theorem skipGaps_cons (h : isGapByte b = false) (t : Bytes) : skipGaps (b :: t) = b :: t := by
  rw [skipGaps, List.dropWhile_cons, h]
  rfl

theorem skipGaps_of_isGap (h : IsGap g) : skipGaps g = [] := by
  rw [← List.append_nil g, skipGaps_append h]
  rfl

/-- An input is a gap and what is left when gaps are skipped. -/
theorem exists_gap (input : Bytes) : ∃ g, IsGap g ∧ input = g ++ skipGaps input :=
  ⟨input.takeWhile isGapByte, List.all_takeWhile, List.takeWhile_append_dropWhile.symm⟩

theorem isGap_of_skipGaps (h : skipGaps input = []) : IsGap input := by
  obtain ⟨g, gap, split⟩ := exists_gap input
  rw [split, h, List.append_nil]
  exact gap

theorem notGap_of_skipGaps {rest : Bytes} (h : skipGaps input = b :: rest) : isGapByte b = false := by
  have front := List.head?_dropWhile_not isGapByte input
  rw [← skipGaps, h] at front
  simpa using front

theorem IsGap.append {g' : Bytes} (h : IsGap g) (h' : IsGap g') : IsGap (g ++ g') := by
  rw [IsGap, List.all_append, h, h']
  rfl

/-- A gap does not go on with a number. -/
theorem not_inNumber_of_isGap (h : isGapByte b = true) : inNumber b = false := by
  simp only [isGapByte, Bool.or_eq_true, beq_iff_eq] at h
  rcases h with ((rfl | rfl) | rfl) | rfl <;> rfl

theorem notGap_of_visible (h : 0x20 < b) : isGapByte b = false := by
  cases gap : isGapByte b with
  | false => rfl
  | true =>
    simp only [isGapByte, Bool.or_eq_true, beq_iff_eq] at gap
    rcases gap with ((rfl | rfl) | rfl) | rfl <;> exact absurd h (by decide)

theorem visible_of_isDigit (h : isDigitByte b = true) : 0x20 < b :=
  UInt8.lt_of_lt_of_le (by decide) (of_decide_eq_true (Bool.and_eq_true_iff.mp h).1)

theorem notGap_of_isDigit (h : isDigitByte b = true) : isGapByte b = false :=
  notGap_of_visible (visible_of_isDigit h)

end Gaps

/-! ## Escapes -/

/-- The texts of escapes, after the backslash. -/
def IsEscape (e : Bytes) : Prop := e ≠ [] ∧ ∀ tail, StringTail tail → StringTail (0x5C :: (e ++ tail))

/-- What a reader of an escape takes off an input is an escape, and it takes the same off any other input. -/
theorem hexEscape_sound {input rest : Bytes} {n : Nat} (h : hexEscape input = .ok (n, rest)) :
    ∃ a b c d, (∀ x ∈ [a, b, c, d], (hexDigit? x).isSome) ∧ input = a :: b :: c :: d :: rest ∧
      ∀ after, hexEscape (a :: b :: c :: d :: after) = .ok (n, after) := by
  unfold hexEscape at h
  split at h
  · next a b c d left =>
    split at h
    · next w x y z wh xh yh zh =>
      cases h
      refine ⟨a, b, c, d, ?_, rfl, fun after => ?_⟩
      · simp [wh, xh, yh, zh]
      · simp [hexEscape, wh, xh, yh, zh]
    · cases h
  · cases h

theorem unicodeEscape_sound {input rest bytes : Bytes} (h : unicodeEscape input = .ok (bytes, rest)) :
    ∃ e, IsEscape (0x75 :: e) ∧ input = e ++ rest ∧ ∀ after, unicodeEscape (e ++ after) = .ok (bytes, after) := by
  obtain ⟨⟨n, left⟩, first, last⟩ := bind_eq_ok.mp h
  obtain ⟨a, b, c, d, hex, rfl, same⟩ := hexEscape_sound first
  simp only at last
  split at last
  · cases last
  next noTrailing =>
  split at last
  · next single =>
    cases last
    refine ⟨[a, b, c, d], ⟨nofun, fun tail => .unicode a b c d hex⟩, rfl, fun after => ?_⟩
    exact bind_eq_ok.mpr ⟨(n, after), same after, (if_neg noTrailing).trans (if_pos single)⟩
  next pair =>
  split at last
  · cases last
  · cases last
  · next left =>
    obtain ⟨⟨m, left'⟩, second, found⟩ := bind_eq_ok.mp last
    obtain ⟨a', b', c', d', hex', rfl, same'⟩ := hexEscape_sound second
    split at found
    · cases found
    · next trailing =>
      obtain ⟨rfl, rfl⟩ := Prod.mk.inj (Except.ok.inj found)
      refine ⟨[a, b, c, d, 0x5C, 0x75, a', b', c', d'], ⟨nofun, fun tail isTail => ?_⟩, rfl, fun after => ?_⟩
      · exact .unicode a b c d hex (.unicode a' b' c' d' hex' isTail)
      · refine bind_eq_ok.mpr ⟨(n, _), same _, ?_⟩
        dsimp only
        rw [if_neg noTrailing, if_neg pair]
        exact bind_eq_ok.mpr ⟨(m, after), same' after, if_neg trailing⟩
  · cases last

theorem escape_sound {input rest bytes : Bytes} (h : escape input = .ok (bytes, rest)) :
    ∃ e, IsEscape e ∧ input = e ++ rest ∧ ∀ after, escape (e ++ after) = .ok (bytes, after) := by
  cases input with
  | nil => cases h
  | cons c left =>
    by_cases unicode : c = 0x75
    · subst unicode
      have unicode : unicodeEscape left = .ok (bytes, rest) := h
      obtain ⟨e, isEscape, rfl, same⟩ := unicodeEscape_sound unicode
      exact ⟨0x75 :: e, isEscape, rfl, same⟩
    by_cases letter : c ∈ escapeLetters
    · -- An escape of one letter does not look at what follows.
      have single : rest = left ∧ ∀ after, escape (c :: after) = .ok (bytes, after) := by
        simp only [escapeLetters, List.mem_cons, List.not_mem_nil, or_false] at letter
        rcases letter with rfl | rfl | rfl | rfl | rfl | rfl | rfl | rfl <;> cases h <;> exact ⟨rfl, fun _ => rfl⟩
      obtain ⟨rfl, same⟩ := single
      exact ⟨[c], ⟨nofun, fun tail isTail => .escape c letter isTail⟩, rfl, same⟩
    · simp only [escapeLetters, List.mem_cons, List.not_mem_nil, or_false, not_or] at letter
      simp [escape, unicode, letter] at h

/-- What is read as a string is a string, and it is read in the same way whatever follows it. -/
theorem stringBytes_sound {fuel : Nat} {done input rest bytes : Bytes}
    (h : stringBytes fuel done input = .ok (bytes, rest)) :
    ∃ t, StringTail t ∧ input = t ++ rest ∧
      ∀ fuel after, t.length ≤ fuel → stringBytes fuel done (t ++ after) = .ok (bytes, after) := by
  induction fuel generalizing done input with
  | zero => cases h
  | succ fuel ih =>
    cases input with
    | nil => cases h
    | cons b left =>
      rw [stringBytes] at h
      split at h
      · next quote =>
        obtain rfl : b = 0x22 := beq_iff_eq.mp quote
        cases h
        refine ⟨[0x22], .close, rfl, fun fuel after le => ?_⟩
        obtain ⟨fuel, rfl⟩ := Nat.exists_eq_add_one.mpr le
        rfl
      next quote =>
      split at h
      · next backslash =>
        obtain rfl : b = 0x5C := beq_iff_eq.mp backslash
        cases escaped : escape left with
        | error e => rw [escaped] at h; cases h
        | ok read =>
          obtain ⟨letter, more⟩ := read
          rw [escaped] at h
          obtain ⟨e, ⟨nonempty, grow⟩, rfl, same⟩ := escape_sound escaped
          obtain ⟨t, isTail, rfl, others⟩ := ih h
          refine ⟨0x5C :: (e ++ t), grow t isTail, by simp, fun fuel after le => ?_⟩
          rw [List.length_cons, List.length_append] at le
          have some : 0 < e.length := List.length_pos_iff.mpr nonempty
          obtain ⟨fuel, rfl⟩ : ∃ more, fuel = more + 1 := Nat.exists_eq_add_one.mpr (by omega)
          rw [List.cons_append, List.append_assoc, stringBytes, if_neg quote, if_pos backslash, same]
          exact others fuel after (by omega)
      next backslash =>
      split at h
      · cases h
      next control =>
      obtain ⟨t, isTail, rfl, others⟩ := ih h
      refine ⟨b :: t, .byte b (by simpa using quote) (by simpa using backslash) control isTail, rfl,
        fun fuel after le => ?_⟩
      obtain ⟨fuel, rfl⟩ := Nat.exists_eq_add_one.mpr (Nat.lt_of_lt_of_le (Nat.succ_pos _) le)
      rw [List.cons_append, stringBytes, if_neg quote, if_neg backslash, if_neg control]
      exact others fuel after (Nat.le_of_succ_le_succ le)

/-- What is read as a string is a string, and it is read in the same way whatever follows it. -/
theorem string_sound {fuel : Nat} {input rest : Bytes} {s : String} (h : string fuel input = .ok (s, rest)) :
    ∃ t, StringTail t ∧ input = t ++ rest ∧ ∀ fuel after, t.length ≤ fuel → string fuel (t ++ after) = .ok (s, after) := by
  obtain ⟨⟨bytes, left⟩, read, decoded⟩ := bind_eq_ok.mp h
  obtain ⟨t, isTail, rfl, others⟩ := stringBytes_sound read
  dsimp only at decoded
  split at decoded
  · next s text =>
    cases decoded
    refine ⟨t, isTail, rfl, fun fuel after le => bind_eq_ok.mpr ⟨(bytes, after), others fuel after le, ?_⟩⟩
    dsimp only
    rw [text]
  · cases decoded

end RecordGate.Json
