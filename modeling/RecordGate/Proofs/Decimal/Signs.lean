import RecordGate.Proofs.Decimal.Reading
import RecordGate.Proofs.Json.Numerals

/-!
# The sign of a zero

A plain reading never gives a zero with a sign, and it keeps a digit that it has met in front of its point
(`Decimal.Follows`). The scientific form shifts the point, which may leave nothing but the sign. It does not where a
digit other than zero stands in front of the point, as in every text that is written for a number of JSON
(`Json.Number.parse?_signless`).
-/

namespace RecordGate

namespace Decimal

variable {negative point any : Bool} {mantissa scale n : Nat} {cs : List Char} {d e : Decimal}

/-! ## The plain form -/

theorem of_ofParts? (h : ofParts? negative mantissa scale = some d) :
    d.negative = negative ∧ d.mantissa = mantissa ∧ d.scale = scale := by
  rw [ofParts?] at h
  split at h
  · cases h
    exact ⟨rfl, rfl, rfl⟩
  · cases h

/--
What a reading gives that has come to a mantissa and a scale: no zero with a sign, and at least one if that is what has
been read.
-/
structure Follows (mantissa scale : Nat) (d : Decimal) : Prop where
  signless : ¬d.IsNegativeZero
  atLeastOne : 10 ^ scale ≤ mantissa → 10 ^ d.scale ≤ d.mantissa

theorem Follows.of_parts (h : ofParts? (negative && mantissa != 0) mantissa scale = some d) :
    Follows mantissa scale d := by
  obtain ⟨sign, rfl, rfl⟩ := of_ofParts? h
  refine ⟨fun ⟨zero, signed⟩ => ?_, id⟩
  rw [sign, zero] at signed
  simp at signed

/-- A mantissa that is no zero has no sign to lose. -/
theorem Follows.of_positive {more places : Nat} (h : ofParts? negative more places = some d) (positive : more ≠ 0)
    (grows : 10 ^ scale ≤ mantissa → 10 ^ places ≤ more) : Follows mantissa scale d := by
  obtain ⟨-, rfl, rfl⟩ := of_ofParts? h
  exact ⟨fun zero => positive zero.1, grows⟩

theorem follows_roundOff {dropped : Nat} (h : roundOff negative mantissa scale dropped cs = some d) :
    Follows mantissa scale d := by
  rw [roundOff] at h
  split at h
  · cases h
  split at h
  · exact .of_parts h
  split at h
  · exact .of_positive h (Nat.succ_ne_zero _) Nat.le_succ_of_le
  next full =>
  split at h
  · cases h
  next decimals =>
  have large : 10 ≤ mantissa := by
    have bound : 10 ≤ maxMantissa := by decide
    omega
  refine .of_positive h (by omega) fun one => ?_
  obtain ⟨places, rfl⟩ : ∃ places, scale = places + 1 := Nat.exists_eq_add_one_of_ne_zero (by simpa using decimals)
  rw [Nat.pow_succ] at one
  rw [Nat.add_sub_cancel]
  omega

/-- One more digit makes a number of at least one no smaller. -/
theorem Follows.of_digit {digit : Nat} (h : Follows (mantissa * 10 + digit) (if point then scale + 1 else scale) d) :
    Follows mantissa scale d := by
  refine ⟨h.signless, fun one => h.atLeastOne ?_⟩
  split
  · rw [Nat.pow_succ]
    omega
  · omega

theorem follows_readDigits (h : readDigits negative mantissa scale point any cs = some d) :
    Follows mantissa scale d := by
  induction cs generalizing mantissa scale point any with
  | nil =>
    rw [readDigits] at h
    split at h
    · exact .of_parts h
    · cases h
  | cons c rest ih =>
    rw [readDigits] at h
    split at h
    · split at h
      · exact follows_roundOff h
      split at h
      · exact (ih h).of_digit
      split at h
      · exact follows_roundOff h
      · cases h
    split at h
    · exact ih h
    split at h
    · split at h
      · exact follows_roundOff h
      · exact ih h
    · cases h

theorem signless_ofPlain? (h : ofPlain? cs = some d) : ¬d.IsNegativeZero := by
  unfold ofPlain? at h
  split at h
  · exact (follows_readDigits h).signless
  · exact (follows_readDigits h).signless
  · exact (follows_readDigits h).signless

/-! ## The scientific form -/

theorem signless_withScale? (signless : ¬d.IsNegativeZero) (h : d.withScale? scale = some e) : ¬e.IsNegativeZero := by
  obtain ⟨sign, mantissa, -⟩ := of_ofParts? h
  rwa [IsNegativeZero, sign, mantissa]

theorem divHalfEven_ne_zero {num den : Nat} (positive : 0 < den) (le : den ≤ num) : divHalfEven num den ≠ 0 := by
  have quotient : 0 < num / den := Nat.div_pos le positive
  unfold divHalfEven
  dsimp only
  split
  · omega
  split
  · omega
  split <;> omega

/-- A ratio of at least one is no zero. -/
theorem signless_ofRatio? {num den : Nat} (positive : 0 < den) (le : negative = true → den ≤ num)
    (h : ofRatio? negative num den scale = some d) : ¬d.IsNegativeZero := by
  have parts {scaled places : Nat} (more : num ≤ scaled)
      (h : ofParts? negative (divHalfEven scaled den) places = some d) : ¬d.IsNegativeZero := by
    obtain ⟨sign, mantissa, -⟩ := of_ofParts? h
    rintro ⟨zero, signed⟩
    exact divHalfEven_ne_zero positive (Nat.le_trans (le (sign ▸ signed)) more) (mantissa ▸ zero)
  induction scale with
  | zero => exact parts (Nat.le_refl _) h
  | succ scale ih =>
    rw [ofRatio?] at h
    split at h
    · next found =>
      cases h
      exact parts (Nat.le_mul_of_pos_right _ (Nat.pow_pos (by decide))) found
    · exact ih h

theorem signless_stripZeros (signless : ¬d.IsNegativeZero) : ¬d.stripZeros.IsNegativeZero := by
  unfold stripZeros
  dsimp only
  cases parts : ofParts? _ _ _ with
  | none => exact signless
  | some e => exact (Follows.of_parts parts).signless

theorem signless_shiftRight? (signless : ¬d.IsNegativeZero) (h : d.shiftRight? n = some e) : ¬e.IsNegativeZero := by
  rw [shiftRight?] at h
  split at h
  · exact signless_withScale? signless h
  next beyond =>
  split at h
  · obtain ⟨r, ratio, rfl⟩ := Option.map_eq_some_iff.mp h
    refine signless_stripZeros (signless_ofRatio? (Nat.pow_pos (by decide)) (fun negative => ?_) ratio)
    -- A number with a sign is no zero.
    have some : 0 < d.mantissa := Nat.pos_of_ne_zero fun zero => signless ⟨zero, negative⟩
    calc Nat.pow 10 d.scale ≤ Nat.pow 10 n := Nat.pow_le_pow_right (by decide) (Nat.le_of_not_le beyond)
      _ ≤ d.mantissa * Nat.pow 10 n := Nat.le_mul_of_pos_left _ some
  · cases h

/-- Where a number is at least one, a shift within the decimals leaves a digit. -/
theorem signless_shiftLeft? (signless : ¬d.IsNegativeZero) (one : 10 ^ d.scale ≤ d.mantissa)
    (h : d.shiftLeft? n = some e) : ¬e.IsNegativeZero := by
  rw [shiftLeft?] at h
  split at h
  · cases h
  next short =>
  split at h
  · exact signless_withScale? signless h
  next wide =>
  obtain ⟨-, mantissa, -⟩ := of_ofParts? h
  rintro ⟨zero, -⟩
  rw [mantissa] at zero
  have kept : 10 * 10 ^ (d.scale + n - maxScale - 1) ≤ d.mantissa := by
    rw [← Nat.pow_succ']
    exact Nat.le_trans (Nat.pow_le_pow_right (by decide) (by omega)) one
  have digits : 10 ≤ d.mantissa / Nat.pow 10 (d.scale + n - maxScale - 1) :=
    (Nat.le_div_iff_mul_le (Nat.pow_pos (by decide))).mpr kept
  omega

/-- Whether a character marks an exponent. -/
def isMark (c : Char) : Bool := c == 'e' || c == 'E'

theorem isMark_of_isDigit {c : Char} (digit : c.isDigit = true) : isMark c = false := by
  cases marked : isMark c with
  | false => rfl
  | true =>
    simp only [isMark, Bool.or_eq_true, beq_iff_eq] at marked
    rcases marked with rfl | rfl <;> cases digit

/-- A scientific reading of what is at least one in front of the mark. -/
theorem signless_ofScientific? (one : ∀ base, ofPlain? (cs.takeWhile (!isMark ·)) = some base →
    10 ^ base.scale ≤ base.mantissa) (h : ofScientific? cs = some d) : ¬d.IsNegativeZero := by
  unfold ofScientific? at h
  obtain ⟨base, plain, shifted⟩ := Option.bind_eq_some_iff.mp h
  have signless := signless_ofPlain? plain
  split at shifted
  · obtain ⟨n, -, shift⟩ := Option.bind_eq_some_iff.mp shifted
    exact signless_shiftLeft? signless (one base plain) shift
  · obtain ⟨n, -, shift⟩ := Option.bind_eq_some_iff.mp shifted
    exact signless_shiftRight? signless shift
  · cases shifted

/-- Without a mark there is no scientific reading. -/
theorem ofScientific?_of_unmarked (h : ∀ c ∈ cs, isMark c = false) : ofScientific? cs = none := by
  have nothing : cs.dropWhile (!isMark ·) = [] := List.dropWhile_eq_nil_iff.mpr fun c mem => by rw [h c mem]; rfl
  unfold ofScientific?
  simp only [Option.bind_eq_bind, Option.bind_eq_none_iff]
  intro base _
  have same : cs.dropWhile (fun c => !(c == 'e' || c == 'E')) = [] := nothing
  rw [same]

/-- A plain form that starts with a digit other than zero is at least one. -/
theorem atLeastOne_of_leading {c : Char} (digit : c.isDigit = true) (nonzero : c ≠ '0')
    (h : ofPlain? ((if negative then ['-'] else []) ++ c :: cs) = some d) : 10 ^ d.scale ≤ d.mantissa := by
  have read : readDigits negative 0 0 false false (c :: cs) = some d := by
    cases negative with
    | true => exact h
    | false =>
      rw [if_neg Bool.false_ne_true, List.nil_append, ofPlain?] at h
      · exact h
      · rintro rest same
        cases (List.cons.inj same).1
        cases digit
      · rintro rest same
        cases (List.cons.inj same).1
        cases digit
  obtain ⟨least, most⟩ : 48 ≤ c.toNat ∧ c.toNat ≤ 57 := Char.isDigit_iff_toNat.mp digit
  have value : 1 ≤ c.toNat - '0'.toNat := by
    have other : c.toNat ≠ 48 := fun same => nonzero (Char.toNat_inj.mp same)
    exact Nat.le_sub_of_add_le (by change 1 + 48 ≤ c.toNat; omega)
  have fits : 0 * 10 + (c.toNat - '0'.toNat) ≤ maxMantissa := by
    have bound : 57 ≤ maxMantissa := by decide
    omega
  rw [readDigits, digit?_of_isDigit digit] at read
  simp only [Bool.false_and, Bool.false_eq_true, if_false, if_pos fits] at read
  exact (follows_readDigits read).atLeastOne (by rw [Nat.pow_zero]; omega)

end Decimal

/-! ## The texts of numbers -/

open Json (UnsignedChars isDigit_of_mem_toDigits)

/-- Nothing else stands in a number. -/
theorem Json.UnsignedChars.letters {cs : List Char} (h : UnsignedChars cs) {c : Char} (mem : c ∈ cs) :
    c.isDigit = true ∨ c = '.' ∨ c = 'e' ∨ c = '-' ∨ c = '+' := by
  obtain ⟨whole, fraction, exponent, ⟨isWhole, isFraction, isExponent, -⟩, rfl⟩ := h
  rcases List.mem_append.mp mem with mem | mem
  · exact .inl (isWhole.digits c mem)
  rcases List.mem_append.mp mem with mem | mem
  · cases isFraction with
    | none => cases mem
    | point filled digits =>
      rcases List.mem_cons.mp mem with point | mem
      · exact .inr (.inl point)
      · exact .inl (digits c mem)
  · cases isExponent with
    | none => cases mem
    | mark sign signed n =>
      rcases List.mem_cons.mp mem with mark | mem
      · exact .inr (.inr (.inl mark))
      rcases List.mem_cons.mp mem with rfl | mem
      · exact .inr (.inr (.inr signed))
      · exact .inl (isDigit_of_mem_toDigits mem)

/-- A number with a mark in it starts with a digit other than zero. -/
theorem Json.UnsignedChars.front {cs : List Char} (h : UnsignedChars cs) :
    (∀ c ∈ cs, Decimal.isMark c = false) ∨ ∃ c rest, cs = c :: rest ∧ c.isDigit = true ∧ c ≠ '0' := by
  obtain ⟨whole, fraction, exponent, ⟨isWhole, isFraction, -, rfl | front⟩, rfl⟩ := h
  · refine .inl fun c mem => ?_
    rw [List.append_nil] at mem
    rcases List.mem_append.mp mem with mem | mem
    · exact Decimal.isMark_of_isDigit (isWhole.digits c mem)
    · cases isFraction with
      | none => cases mem
      | point filled digits =>
        rcases List.mem_cons.mp mem with rfl | mem
        · rfl
        · exact Decimal.isMark_of_isDigit (digits c mem)
  · obtain ⟨c, rest, rfl⟩ := List.exists_cons_of_ne_nil isWhole.filled
    exact .inr ⟨c, _, rfl, isWhole.digits c List.mem_cons_self, fun zero => front (congrArg some zero)⟩

/-- **What is read of the text of a number of JSON is no zero with a sign.** -/
theorem Json.Number.parse?_signless (n : Json.Number) {d : Decimal} (h : Decimal.parse? (toString n) = some d) :
    ¬d.IsNegativeZero := by
  obtain ⟨negative, body, form, unsigned⟩ := Json.toString_unsigned n
  have sign {c : Char} (mem : c ∈ if negative then ['-'] else []) : c = '-' := by
    split at mem
    · exact List.mem_singleton.mp mem
    · cases mem
  have solid : Text.IsSolid ((if negative then ['-'] else []) ++ body) := by
    refine .append (fun c mem => sign mem ▸ rfl) fun c mem => ?_
    rcases unsigned.letters mem with digit | rfl | rfl | rfl | rfl
    · exact Text.isBlank_of_isDigit digit
    all_goals rfl
  unfold Decimal.parse? at h
  dsimp only at h
  rw [form, Text.trimChars_ofList solid] at h
  split at h
  · next plain =>
    cases h
    exact Decimal.signless_ofPlain? plain
  rcases unsigned.front with unmarked | ⟨c, rest, rfl, digit, nonzero⟩
  · rw [Decimal.ofScientific?_of_unmarked] at h
    · cases h
    · exact fun c mem => (List.mem_append.mp mem).elim (fun mem => sign mem ▸ rfl) (unmarked c)
  · refine Decimal.signless_ofScientific? (fun base plain => ?_) h
    have unmarked := Decimal.isMark_of_isDigit digit
    have taken : ((if negative then ['-'] else []) ++ c :: rest).takeWhile (!Decimal.isMark ·) =
        (if negative then ['-'] else []) ++ c :: rest.takeWhile (!Decimal.isMark ·) := by
      cases negative with
      | true => exact congrArg ('-' :: ·) (List.takeWhile_cons_of_pos (by rw [unmarked]; rfl))
      | false => exact List.takeWhile_cons_of_pos (by rw [unmarked]; rfl)
    rw [taken] at plain
    exact Decimal.atLeastOne_of_leading digit nonzero plain

end RecordGate
