import RecordGate.Proofs.Text.Blank
import RecordGate.Proofs.Value

/-!
# Reading written decimals

A written decimal has no more digits than a mantissa holds and no more decimals than a scale counts, so
nothing is rounded off when it is read (`Decimal.readDigits_append`). It is read back with its scale, but for
the sign of a zero (`Decimal.parse?_toString`).
-/

namespace RecordGate.Decimal

/-- The same number at the same scale; a zero has no sign. -/
def unsignedZero (d : Decimal) : Decimal := { d with negative := d.negative && d.mantissa != 0 }

theorem signed_unsignedZero (d : Decimal) : d.unsignedZero.signed = d.signed := by
  obtain ⟨negative, mantissa, scale, -, -⟩ := d
  cases negative with
  | false => rfl
  | true =>
    by_cases zero : mantissa = 0
    · subst zero
      rfl
    · simp [unsignedZero, signed, zero]

/-- A zero with a sign. -/
def IsNegativeZero (d : Decimal) : Prop := d.mantissa = 0 ∧ d.negative = true

/-- Only a zero with a sign is changed. -/
theorem unsignedZero_eq {d : Decimal} (h : ¬d.IsNegativeZero) : d.unsignedZero = d := by
  have sign : (d.negative && d.mantissa != 0) = d.negative := by
    rw [Bool.and_eq_left_iff_imp, bne_iff_ne]
    exact fun negative zero => h ⟨zero, negative⟩
  rw [unsignedZero, sign]

/-- A whole part has no sign when it is zero. -/
theorem unsignedZero_trunc (d : Decimal) : d.trunc.unsignedZero = d.trunc :=
  unsignedZero_eq fun ⟨zero, negative⟩ => bne_iff_ne.mp (Bool.and_eq_true_iff.mp negative).2 zero

/-! ## Digits -/

theorem digit?_of_isDigit {c : Char} (h : c.isDigit = true) : digit? c = some (c.toNat - '0'.toNat) := if_pos h

theorem le_ofDigitChars (digits : List Char) (n : Nat) : n ≤ Nat.ofDigitChars 10 digits n := by
  have pos : 0 < 10 ^ digits.length := Nat.pow_pos (by decide)
  rw [Nat.ofDigitChars_eq_ofDigitChars_zero]
  exact Nat.le_add_right_of_le (Nat.le_mul_of_pos_left n pos)

/-- Digits are taken in one by one while mantissa and scale have room for them. -/
theorem readDigits_append (negative : Bool) (mantissa scale : Nat) (point any : Bool) {digits : List Char}
    (rest : List Char) (all : ∀ c ∈ digits, c.isDigit = true)
    (fits : Nat.ofDigitChars 10 digits mantissa ≤ maxMantissa)
    (room : point = true → scale + digits.length ≤ maxScale) :
    readDigits negative mantissa scale point any (digits ++ rest) =
      readDigits negative (Nat.ofDigitChars 10 digits mantissa) (if point then scale + digits.length else scale) point
        (any || !digits.isEmpty) rest := by
  induction digits generalizing mantissa scale any with
  | nil => simp
  | cons c digits ih =>
    obtain ⟨digit, all⟩ := List.forall_mem_cons.mp all
    rw [Nat.ofDigitChars_cons, Nat.mul_comm] at fits ⊢
    have taken : mantissa * 10 + (c.toNat - '0'.toNat) ≤ maxMantissa := Nat.le_trans (le_ofDigitChars ..) fits
    rw [List.length_cons] at room
    have unfilled : (point && scale == maxScale) = false := by
      cases point with
      | false => rfl
      | true =>
        have := room rfl
        simp only [Bool.true_and, beq_eq_false_iff_ne]
        omega
    have next := ih (mantissa * 10 + (c.toNat - '0'.toNat)) (if point then scale + 1 else scale) true all fits (by
      intro behind
      rw [if_pos behind, Nat.add_assoc, Nat.add_comm 1]
      exact room behind)
    rw [List.cons_append, readDigits, digit?_of_isDigit digit]
    simp only [unfilled, Bool.false_eq_true, if_false, if_pos taken, next]
    cases point with
    | false => simp
    | true => simp [Nat.add_assoc, Nat.add_comm 1]

/-! ## Decimals -/

/-- What is written behind the sign gives back mantissa and scale. -/
theorem readDigits_written (negative : Bool) {d : Decimal} {whole decimals : List Char} (filled : whole ≠ [])
    (length : decimals.length = d.scale) (digits : whole ++ decimals = Date.padded (d.scale + 1) d.mantissa) :
    readDigits negative 0 0 false false (whole ++ if d.scale = 0 then [] else '.' :: decimals) =
      ofParts? (negative && d.mantissa != 0) d.mantissa d.scale := by
  have digit (c : Char) (hc : c ∈ whole ++ decimals) : c.isDigit = true := Date.isDigit_of_mem_padded (digits ▸ hc)
  have inWhole (c : Char) (hc : c ∈ whole) : c.isDigit = true := digit c (List.mem_append_left _ hc)
  have inDecimals (c : Char) (hc : c ∈ decimals) : c.isDigit = true := digit c (List.mem_append_right _ hc)
  have value : Nat.ofDigitChars 10 decimals (Nat.ofDigitChars 10 whole 0) = d.mantissa := by
    rw [← Nat.ofDigitChars_append, digits, Date.ofDigitChars_padded]
  have fits : Nat.ofDigitChars 10 whole 0 ≤ maxMantissa :=
    Nat.le_trans (le_ofDigitChars decimals _) (value ▸ d.mantissa_le)
  have met : (false || !whole.isEmpty) = true := by simp [filled]
  rw [readDigits_append negative 0 0 false false _ inWhole fits nofun, met]
  by_cases scale : d.scale = 0
  · rw [scale, List.length_eq_zero_iff] at length
    subst length
    rw [if_pos scale, ← value, scale]
    rfl
  · have last := readDigits_append negative (Nat.ofDigitChars 10 whole 0) 0 true true [] inDecimals
      (value ▸ d.mantissa_le) (fun _ => by rw [Nat.zero_add, length]; exact d.scale_le)
    rw [List.append_nil, value, length, Nat.zero_add] at last
    rw [if_neg scale]
    exact last

theorem ofPlain?_chars (d : Decimal) : ofPlain? d.chars = some d.unsignedZero := by
  obtain ⟨whole, decimals, filled, length, digits, form⟩ := d.chars_parts
  have read (negative : Bool) := readDigits_written negative filled length digits
  have parts : ofParts? (d.negative && d.mantissa != 0) d.mantissa d.scale = some d.unsignedZero :=
    ofParts?_parts d.unsignedZero
  rw [form]
  cases sign : d.negative with
  | true =>
    rw [sign] at parts
    exact (read true).trans parts
  | false =>
    rw [sign] at parts
    simp only [Bool.false_eq_true, if_false, List.nil_append]
    -- A digit stands at the front, so there is no sign to be taken off.
    obtain ⟨c, tail, rfl⟩ := List.exists_cons_of_ne_nil filled
    have front : c ∈ Date.padded (d.scale + 1) d.mantissa := by
      rw [← digits]
      exact List.mem_cons_self
    have digit : c.isDigit = true := Date.isDigit_of_mem_padded front
    rw [ofPlain?]
    · exact (read false).trans parts
    · intro rest same
      cases (List.cons.inj same).1
      cases digit
    · intro rest same
      cases (List.cons.inj same).1
      cases digit

theorem isSolid_chars (d : Decimal) : Text.IsSolid d.chars := by
  obtain ⟨whole, decimals, -, -, digits, form⟩ := d.chars_parts
  have solid : Text.IsSolid (whole ++ decimals) := digits ▸ Text.isSolid_of_digits fun _ => Date.isDigit_of_mem_padded
  have sign : Text.IsSolid (if d.negative then ['-'] else []) := by
    split
    · exact .cons rfl Text.isSolid_nil
    · exact Text.isSolid_nil
  have point : Text.IsSolid (if d.scale = 0 then [] else '.' :: decimals) := by
    split
    · exact Text.isSolid_nil
    · exact .cons rfl fun c hc => solid c (List.mem_append_right _ hc)
  rw [form]
  exact sign.append (Text.IsSolid.append (fun c hc => solid c (List.mem_append_left _ hc)) point)

theorem chars_ne_nil (d : Decimal) : d.chars ≠ [] := by
  obtain ⟨whole, decimals, filled, -, -, form⟩ := d.chars_parts
  rw [form]
  simp [filled]

theorem trimChars_toString (d : Decimal) : Text.trimChars (toString d).toList = d.chars :=
  Text.trimChars_ofList d.isSolid_chars

/-- **A written decimal is read back** with its scale, and with its sign unless it is a zero. -/
theorem parse?_toString (d : Decimal) : parse? (toString d) = some d.unsignedZero := by
  simp only [parse?, trimChars_toString, ofPlain?_chars]

end RecordGate.Decimal
