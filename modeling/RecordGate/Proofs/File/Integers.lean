import RecordGate.Proofs.Decimal.Reading
import RecordGate.Proofs.File.Records
import RecordGate.Proofs.Json.RoundTrip
import RecordGate.Proofs.Schema.Values

/-!
# Integers in files of JSON

Every number of the grammar without decimals and exponent is the text of an integer (`Json.exists_integerText`). An
integer of 64 bits is read as it is, and any other becomes a binary number (`Json.Reads.integer`). So the cell of a
field holds exactly the integer that stands in the record, as a text of it would, as long as 64 bits hold it
(`JsonRecord.integers_kept`). Beyond, its last digits are lost (`JsonRecord.integer_rounded`).
-/

namespace RecordGate

/-! ## Texts of integers -/

namespace Json

variable {t : Bytes}

theorem exists_digitChar {b : UInt8} (digit : isDigitByte b = true) :
    digitValue b < 10 ∧ String.utf8EncodeChar (digitValue b).digitChar = [b] := by
  obtain ⟨least, most⟩ : 48 ≤ b.toNat ∧ b.toNat ≤ 57 := by
    simpa [isDigitByte, UInt8.le_iff_toNat_le] using digit
  have small : digitValue b < 10 := by
    rw [digitValue]
    omega
  refine ⟨small, ?_⟩
  have char : (digitValue b).digitChar.toNat = b.toNat := by
    rw [Nat.toNat_digitChar_of_lt_ten small, digitValue]
    omega
  rw [Text.utf8EncodeChar_ascii (by omega), char, UInt8.ofNat_toNat]

/-- Digits of which the first is no zero are those of a number. -/
theorem exists_toDigits {d : UInt8} {ds : Bytes} (digit : isDigitByte d = true) (nonzero : d ≠ 0x30)
    (digits : AllDigits ds) : ∃ n, 0 < n ∧ (Nat.toDigits 10 n).flatMap String.utf8EncodeChar = d :: ds := by
  induction ds using List.reverseRecOn with
  | nil =>
    obtain ⟨small, form⟩ := exists_digitChar digit
    refine ⟨digitValue d, Nat.pos_of_ne_zero fun zero => nonzero ?_, ?_⟩
    · rw [zero] at form
      exact (List.singleton_inj.mp form).symm
    · rw [Nat.toDigits_of_lt_base small, List.flatMap_singleton, form]
  | append_singleton ds b ih =>
    obtain ⟨n, positive, same⟩ := ih fun c mem => digits c (List.mem_append_left _ mem)
    obtain ⟨small, form⟩ := exists_digitChar (digits b (by simp))
    refine ⟨10 * n + digitValue b, by omega, ?_⟩
    rw [← Nat.toDigits_append_toDigits (by decide) positive small, Nat.toDigits_of_lt_base small, List.flatMap_append,
      same, List.flatMap_singleton, form]
    rfl

/-- **A number of the grammar without decimals and exponent is the text of an integer.** -/
theorem exists_integerText (negative : Bool) (h : IsWhole t) :
    ∃ n, (if negative then 0x2D :: t else t) = Text.encode (integerText negative n) := by
  obtain ⟨n, digits⟩ : ∃ n, (Nat.toDigits 10 n).flatMap String.utf8EncodeChar = t := by
    cases h with
    | zero => exact ⟨0, by decide⟩
    | digits d digit nonzero rest =>
      obtain ⟨n, -, digits⟩ := exists_toDigits digit nonzero rest
      exact ⟨n, digits⟩
  refine ⟨n, ?_⟩
  rw [integerText, Text.encode_ofList, List.flatMap_append, digits]
  cases negative with
  | true =>
    have sign : ['-'].flatMap String.utf8EncodeChar = [0x2D] := by decide
    rw [if_pos rfl, if_pos rfl, sign]
    rfl
  | false => rfl

/-- The integer of a text. -/
def integerValue (negative : Bool) (n : Nat) : Int := if negative then -(n : Int) else n

/-- An integer that 64 bits hold, with a sign or without. -/
def FitsWord (z : Int) : Prop := -(Nat.pow 2 63 : Nat) ≤ z ∧ z < (Nat.pow 2 64 : Nat)

instance (z : Int) : Decidable (FitsWord z) := inferInstanceAs (Decidable (_ ∧ _))

/-! ## Reading integers -/

section Reading

variable (positive : Bool) {cs : List Char} {after : Bytes}

/-- Whole digits that no longer fit the significand only count into the exponent. -/
theorem longWhole_encoded (digits : ∀ c ∈ cs, c.isDigit = true) (significand exponent : Nat) (stops : Stops after) :
    longWhole positive significand exponent (cs.flatMap String.utf8EncodeChar ++ after) =
      (scaled positive significand (exponent + cs.length : Nat)).map (·, after) := by
  induction cs generalizing exponent with
  | nil =>
    cases after with
    | nil => rfl
    | cons b rest =>
      have clear : afterWholeMark b = false := not_afterWholeMark b (clear_cons.mp stops)
      obtain ⟨noDigit, noMark⟩ := Bool.or_eq_false_iff.mp clear
      have noMark : b ≠ 0x2E ∧ b ≠ 0x65 ∧ b ≠ 0x45 := by simpa [isMark] using noMark
      simp [longWhole, noDigit, noMark]
  | cons c cs ih =>
    obtain ⟨first, others⟩ := List.forall_mem_cons.mp digits
    obtain ⟨b, form, digit, -⟩ := utf8EncodeChar_digit first
    have count : exponent + 1 + cs.length = exponent + (c :: cs).length := by
      rw [List.length_cons]
      omega
    rw [List.flatMap_cons, form, List.append_assoc, List.singleton_append, longWhole, if_pos digit, ih others, count]

/-- Of digits that do not fit the significand the first ones are read and scaled. -/
theorem wholeDigits_long (digits : ∀ c ∈ cs, c.isDigit = true) {significand : Nat} (fits : significand ≤ maxSignificand)
    (large : maxSignificand < Nat.ofDigitChars 10 cs significand) (stops : Stops after) :
    ∃ first exponent, wholeDigits positive significand (cs.flatMap String.utf8EncodeChar ++ after) =
      (scaled positive first exponent).map (·, after) := by
  induction cs generalizing significand with
  | nil => exact absurd large (Nat.not_lt.mpr fits)
  | cons c cs ih =>
    obtain ⟨first, others⟩ := List.forall_mem_cons.mp digits
    obtain ⟨b, form, digit, value⟩ := utf8EncodeChar_digit first
    have value : digitValue b = c.toNat - '0'.toNat := by rw [digitValue, value]; rfl
    rw [Nat.ofDigitChars_cons, Nat.mul_comm, ← value] at large
    rw [List.flatMap_cons, form, List.append_assoc, List.singleton_append, wholeDigits, if_pos digit]
    by_cases long : overflows significand (digitValue b) = true
    · rw [if_pos long]
      exact ⟨_, _, longWhole_encoded positive others significand 1 stops⟩
    · rw [if_neg long]
      exact ih others (by simpa [overflows] using long) large

/-- The digits of a number that does not fit the significand are scaled. -/
theorem number_long {n : Nat} (large : maxSignificand < n) (stops : Stops after) :
    ∃ first exponent, number positive ((Nat.toDigits 10 n).flatMap String.utf8EncodeChar ++ after) =
      (scaled positive first exponent).map (·, after) := by
  obtain ⟨first, cs, small, digits, value, read⟩ := number_digits positive (Nat.ne_of_gt (Nat.zero_lt_of_lt large))
  have fits : first ≤ maxSignificand := Nat.le_trans small (by decide)
  rw [read]
  exact wholeDigits_long positive digits fits (value ▸ large) stops

/-- What is scaled is a binary number. -/
theorem float_of_scaled {significand : Nat} {exponent : Int} {n : Number}
    (h : scaled positive significand exponent = .ok n) : ∃ x, n = .float x := by
  have signed {x : Binary64} (same : Except.ok (Number.float x) = (.ok n : Except ParseError Number)) :
      ∃ x, n = .float x := ⟨x, (Except.ok.inj same).symm⟩
  unfold scaled at h
  dsimp only at h
  split at h
  · split at h
    · exact signed h
    · cases h
  split at h
  · split at h
    · exact signed h
    · cases h
  split at h
  · exact signed h
  split at h
  · exact signed h
  · exact signed h

end Reading

theorem fitsWord_iff {negative : Bool} {n : Nat} :
    FitsWord (integerValue negative n) ↔ n ≤ if negative then Nat.pow 2 63 else maxSignificand := by
  have most : Nat.pow 2 64 = maxSignificand + 1 := by decide
  rw [FitsWord, most]
  cases negative with
  | true =>
    simp only [integerValue, if_true]
    omega
  | false =>
    simp only [integerValue, Bool.false_eq_true, if_false]
    omega

theorem le_maxSignificand {negative : Bool} {n : Nat} (fits : FitsWord (integerValue negative n)) :
    n ≤ maxSignificand := by
  refine Nat.le_trans (fitsWord_iff.mp fits) ?_
  cases negative <;> decide

/-- A negative zero apart, an integer of 64 bits is read as it is. -/
theorem wholeNumber_of_fitsWord {negative : Bool} {n : Nat} (fits : FitsWord (integerValue negative n))
    (signless : ¬(negative = true ∧ n = 0)) : wholeNumber (!negative) n = .whole (integerValue negative n) := by
  cases negative with
  | false => rfl
  | true =>
    have least : n ≤ Nat.pow 2 63 := fitsWord_iff.mp fits
    have positive : n ≠ 0 := fun zero => signless ⟨rfl, zero⟩
    have whole := wholeNumber_negative (n := -(n : Int)) (by omega) (by rwa [Int.natAbs_neg, Int.natAbs_natCast])
    rwa [Int.natAbs_neg, Int.natAbs_natCast] at whole

/-- **Beyond 64 bits an integer becomes a binary number.** -/
theorem float_of_reads {depth : Nat} {negative : Bool} {n : Nat} {j : Json}
    (large : ¬FitsWord (integerValue negative n)) (h : Reads (value depth) (Text.encode (integerText negative n)) j) :
    ∃ x, j = .num (.float x) := by
  rw [fitsWord_iff] at large
  by_cases fits : n ≤ maxSignificand
  · rw [h.unique (reads_integerText depth negative fits)]
    cases negative with
    | false => exact absurd fits large
    | true =>
      have beyond : (n == 0 || n > Nat.pow 2 63) = true := by
        rw [Bool.or_eq_true]
        exact .inr (decide_eq_true (Nat.lt_of_not_le large))
      exact ⟨_, congrArg Json.num (if_pos beyond)⟩
  · have read := h _ [] (Nat.le_refl _) (clear_nil _)
    obtain ⟨first, exponent, scale⟩ := number_long (!negative) (Nat.lt_of_not_le fits) (clear_nil _)
    rw [value_integerText, scale] at read
    obtain ⟨⟨k, rest⟩, scaled, same⟩ := map_eq_ok.mp read
    obtain ⟨m, ok, pair⟩ := map_eq_ok.mp scaled
    cases pair
    cases same
    obtain ⟨x, rfl⟩ := float_of_scaled _ ok
    exact ⟨x, rfl⟩

end Json

/-! ## Decimals of integers -/

open Json (integerText integerValue FitsWord)

namespace Decimal

/-- The decimal stands for an integer. -/
def IsInteger (d : Decimal) (z : Int) : Prop := d.signed = z * (Nat.pow 10 d.scale : Nat)

instance (d : Decimal) (z : Int) : Decidable (d.IsInteger z) := inferInstanceAs (Decidable (_ = _))

/-- The decimal of a sign and digits, without a point. -/
def ofDigits (negative : Bool) (n : Nat) (fits : n ≤ maxMantissa) : Decimal :=
  ⟨negative && n != 0, n, 0, fits, Nat.zero_le _⟩

variable {negative : Bool} {n : Nat}

theorem isInteger_ofDigits (fits : n ≤ maxMantissa) :
    (ofDigits negative n fits).IsInteger (integerValue negative n) := by
  have signed := signed_unsignedZero ⟨negative, n, 0, fits, Nat.zero_le _⟩
  have scale : ((Nat.pow 10 0 : Nat) : Int) = 1 := rfl
  change _ = integerValue negative n * ((Nat.pow 10 0 : Nat) : Int)
  rw [scale, Int.mul_one]
  exact signed

/-- Decimals of the same integer are the same number. -/
theorem IsInteger.sameNumber {d e : Decimal} {z : Int} (h : d.IsInteger z) (h' : e.IsInteger z) :
    d.sameNumber e = true := by
  have same : d.signed * (Nat.pow 10 e.scale : Nat) = e.signed * (Nat.pow 10 d.scale : Nat) := by
    rw [h, h', Int.mul_right_comm]
  rw [Decimal.sameNumber, cmp, same, beq_iff_eq]
  exact Std.compare_self

/-- The text of an integer is that of its decimal. -/
theorem toString_of_integer (fits : n ≤ maxMantissa) :
    toString (⟨negative, n, 0, fits, Nat.zero_le _⟩ : Decimal) = integerText negative n := by
  have digits : paddedDigits n 1 = Nat.toDigits 10 n := by
    have filled : 1 ≤ (Nat.toDigits 10 n).length := List.length_pos_iff.mpr Nat.toDigits_ne_nil
    rw [paddedDigits, Nat.sub_eq_zero_of_le filled]
    rfl
  refine congrArg String.ofList ?_
  rw [chars]
  dsimp only
  rw [Nat.zero_add, digits, Nat.sub_zero, List.take_length]
  exact List.append_nil _

/-- **The text of an integer is read as exactly this integer.** -/
theorem parse?_integerText (fits : n ≤ maxMantissa) :
    parse? (integerText negative n) = some (ofDigits negative n fits) := by
  rw [← toString_of_integer fits]
  exact parse?_toString _

end Decimal

/-! ## Cells of integers -/

section Cells

variable {negative : Bool} {n : Nat}

theorem le_maxMantissa_of_fitsWord (fits : FitsWord (integerValue negative n)) : n ≤ Decimal.maxMantissa :=
  Nat.le_trans (Json.le_maxSignificand fits) (by decide)

/-- A negative zero apart, the number that is read is written as it stood. -/
theorem toString_wholeNumber (fits : FitsWord (integerValue negative n)) (signless : ¬(negative = true ∧ n = 0)) :
    toString (Json.wholeNumber (!negative) n) = integerText negative n := by
  rw [Json.wholeNumber_of_fitsWord fits signless, Json.toString_whole]
  cases negative with
  | false =>
    have sign : decide (integerValue false n < 0) = false := decide_eq_false (Int.not_lt.mpr (Int.natCast_nonneg n))
    rw [sign]
    rfl
  | true =>
    have positive : n ≠ 0 := fun zero => signless ⟨rfl, zero⟩
    have sign : decide (integerValue true n < 0) = true := decide_eq_true (by simp [integerValue]; omega)
    rw [sign, integerValue, if_pos rfl, Int.natAbs_neg, Int.natAbs_natCast]

/-- The cell of an integer of 64 bits is exactly this integer, and is read as its text is, a negative zero apart. -/
theorem exists_cell (fits : FitsWord (integerValue negative n)) :
    ∃ d, JsonRecord.cell (.num (Json.wholeNumber (!negative) n)) = .number d ∧ d.IsInteger (integerValue negative n) ∧
      (¬(negative = true ∧ n = 0) → d = .ofDigits negative n (le_maxMantissa_of_fitsWord fits)) := by
  by_cases signless : negative = true ∧ n = 0
  · obtain ⟨rfl, rfl⟩ := signless
    exact ⟨⟨false, 0, 1, by decide, by decide⟩, by decide +kernel, by decide, fun other => absurd ⟨rfl, rfl⟩ other⟩
  · have small := le_maxMantissa_of_fitsWord fits
    refine ⟨.ofDigits negative n small, ?_, Decimal.isInteger_ofDigits small, fun _ => rfl⟩
    rw [JsonRecord.cell, toString_wholeNumber fits signless, Decimal.parse?_integerText small]

/-- **A text is coerced to exactly the integer that it writes.** -/
theorem coerce_integerText (small : n ≤ Decimal.maxMantissa) :
    coerce .decimal (.text (integerText negative n)) = .ok (.number (.ofDigits negative n small)) ∧
      coerce .integer (.text (integerText negative n)) = .ok (.number (.ofDigits negative n small)) := by
  have whole : integer? (.ofDigits negative n small) = some (.number (.ofDigits negative n small)) := by
    have trunc : (Decimal.ofDigits negative n small).trunc = .ofDigits negative n small := by
      simp [Decimal.trunc, Decimal.ofDigits]
    rw [integer?, trunc]
    exact if_pos (by simp [Decimal.isIntegral, Decimal.ofDigits, Nat.mod_one])
  constructor
  · exact coerce_eq_ok.mpr (congrArg (Option.map Value.number) (Decimal.parse?_integerText small))
  · refine coerce_eq_ok.mpr ?_
    change (Decimal.parse? (integerText negative n)).bind integer? = _
    rw [Decimal.parse?_integerText small]
    exact whole

end Cells

namespace JsonRecord

/--
**Integers of 64 bits are kept exactly.** Each record of a file of JSON that is an object is answered as a row. Where a
number without decimals and exponent stands last under a name, and 64 bits hold it, with a sign or without, the cell of
that name is a decimal of exactly this integer. It is the same number as its text is coerced to, and the same decimal
unless the text is `-0`. Any other such number reaches the cell as a binary number.

The text of an integer of at most 28 digits is coerced to exactly this integer.
-/
theorem integers_kept {format : Format} (json : format ≠ .csv) (input : Bytes) :
    (∀ k row, (format.stream input).answer k = some (.row row) ↔
        ∃ t entries, (format.recordTexts input)[k]? = some t ∧ IsRecord t entries ∧ row = ⟨k + 1, rowCells entries⟩) ∧
      (∀ negative t, Json.IsWhole t →
        ∃ n, (if negative then 0x2D :: t else t) = Text.encode (integerText negative n)) ∧
      (∀ t entries, IsRecord t entries →
        ∀ name negative n, Holds entries name (Text.encode (integerText negative n)) →
          let z := integerValue negative n
          (FitsWord z → ∃ d e, (rowCells entries).get? name = some (.number d) ∧ d.IsInteger z ∧
            coerce .decimal (.text (integerText negative n)) = .ok (.number e) ∧ d.sameNumber e = true ∧
            (integerText negative n ≠ "-0" → d = e)) ∧
          (¬FitsWord z → ∃ x, (rowCells entries).get? name = some (cell (.num (.float x))))) ∧
      ∀ negative n, n < 10 ^ 28 → ∃ e : Decimal, e.IsInteger (integerValue negative n) ∧
        coerce .decimal (.text (integerText negative n)) = .ok (.number e) ∧
        coerce .integer (.text (integerText negative n)) = .ok (.number e) := by
  refine ⟨fun k row => Format.answer_row_iff json, fun negative t => Json.exists_integerText negative,
    fun t entries isRecord name negative n held => ?_, fun negative n short => ?_⟩
  · obtain ⟨j, reads, found⟩ := get?_rowCells isRecord held
    refine ⟨fun fits => ?_, fun large => ?_⟩
    · have small := le_maxMantissa_of_fitsWord fits
      obtain ⟨d, same, whole, unsigned⟩ := exists_cell fits
      rw [reads.unique (Json.reads_integerText _ negative (Json.le_maxSignificand fits)), same] at found
      refine ⟨d, _, found, whole, (coerce_integerText small).1, ?_, fun other => unsigned ?_⟩
      · exact whole.sameNumber (Decimal.isInteger_ofDigits small)
      · rintro ⟨rfl, rfl⟩
        exact other rfl
    · obtain ⟨x, rfl⟩ := Json.float_of_reads large reads
      exact ⟨x, found⟩
  · have small : n ≤ Decimal.maxMantissa := Nat.le_trans (Nat.le_of_lt short) (by decide)
    exact ⟨_, Decimal.isInteger_ofDigits small, (coerce_integerText small).1, (coerce_integerText small).2⟩

/-- The least integer of 64 bits on a line, and the longest text of digits. -/
theorem integers_kept_least :
    let input := Text.encode "\x7b\"id\":-9223372036854775808\x7d\n"
    ∃ row d, FitsWord (integerValue true 9223372036854775808) ∧
      (Format.jsonLines.stream input).answer 0 = some (.row row) ∧ row.cells.get? "id" = some (.number d) ∧
      d.IsInteger (-9223372036854775808) ∧
      ∃ e : Decimal, e.IsInteger 9999999999999999999999999999 ∧
        coerce .decimal (.text "9999999999999999999999999999") = .ok (.number e) := by
  intro input
  let least : Json := .num (.whole (-9223372036854775808))
  let entry : Entry := ⟨.written ("id", least), "id", least⟩
  have back : (Json.Number.whole (-9223372036854775808)).ReadsBack := Json.readsBack_whole (by decide) (by decide)
  have readsMember : Json.ReadsMember Json.memberValue entry.member (entry.name, entry.value) :=
    Json.readsMember_written (Json.reads_number back _)
  have isRecord : IsRecord input [entry] :=
    ⟨⟨[], [], [0x0A], rfl, rfl, rfl, by decide +kernel⟩, by simpa using readsMember⟩
  have held : Holds [entry] "id" (Text.encode (integerText true 9223372036854775808)) :=
    ⟨[], entry, [], rfl, rfl, by decide +kernel, nofun⟩
  have fits : FitsWord (integerValue true 9223372036854775808) := by decide
  have json : Format.jsonLines ≠ .csv := nofun
  obtain ⟨rows, -, kept, texts⟩ := integers_kept json input
  obtain ⟨d, -, found, whole, -⟩ := (kept input [entry] isRecord "id" true _ held).1 fits
  obtain ⟨e, long, read, -⟩ := texts false 9999999999999999999999999999 (by decide)
  have text : integerText false 9999999999999999999999999999 = "9999999999999999999999999999" := by decide +kernel
  rw [text] at read
  have answer := (rows 0 _).mpr ⟨input, [entry], by decide +kernel, isRecord, rfl⟩
  exact ⟨_, d, fits, answer, found, whole, e, long, read⟩

/-- One above the integers of 64 bits: the cell is another integer than its text is coerced to. -/
theorem integer_rounded :
    let input := Text.encode "[\x7b\"id\":18446744073709551617\x7d]"
    ∃ d e : Decimal, (Format.json.stream input).answer 0 = some (.row ⟨1, .ofList [("id", .number d)]⟩) ∧
      coerce .decimal (.text "18446744073709551617") = .ok (.number e) ∧
      d.IsInteger 18446744073709552000 ∧ e.IsInteger 18446744073709551617 ∧ d.sameNumber e = false := by
  refine ⟨⟨false, 18446744073709552000, 0, by decide, by decide⟩,
    ⟨false, 18446744073709551617, 0, by decide, by decide⟩, ?_, ?_, by decide, by decide, by decide⟩
  · decide +kernel
  · decide +kernel

end JsonRecord

end RecordGate
