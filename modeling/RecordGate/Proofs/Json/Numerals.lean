import Mathlib.Data.List.Basic
import RecordGate.Json.Printer
import RecordGate.Proofs.Json.Strings
import RecordGate.Proofs.Text.Utf8

/-!
# The texts of numbers

What is written for a number is a number of the grammar (`Json.isNumber_toString`): whole digits of which the first
is no zero unless it stands alone, decimals, and an exponent. For binary numbers this rests on their shortest
digits, which are never those of zero (`Binary64.digits_nonzero`).
-/

namespace RecordGate

namespace Binary64

/-! ## Digits of binary numbers -/

/-- The digits that are found are none, or they are those of a positive number. -/
theorem search_nonzero {low mid high den : Nat} {closed : Bool} {first : Int} (pos : 0 < low) (tries digits : Nat) :
    shortest.search low mid high den closed first tries digits = (0, 0) ∨
      (shortest.search low mid high den closed first tries digits).1 ≠ 0 := by
  induction tries generalizing digits with
  | zero => exact .inl rfl
  | succ tries ih =>
    rw [shortest.search]
    generalize first - ((digits - 1 : Nat) : Int) = e
    obtain ⟨up, down, scale, positive⟩ : ∃ up down,
        (if e < 0 then (Nat.pow 10 e.natAbs, 1) else (1, Nat.pow 10 e.natAbs)) = (up, down) ∧ 0 < up := by
      split
      · exact ⟨_, _, rfl, Nat.pow_pos (by decide)⟩
      · exact ⟨_, _, rfl, Nat.one_pos⟩
    simp only [scale]
    have least : 0 < low * up := Nat.mul_pos pos positive
    -- Zero is not inside the interval.
    have nonzero {q unit : Nat}
        (inside : (if closed = true then decide (low * up ≤ q * unit) && decide (q * unit ≤ high * up)
          else decide (low * up < q * unit) && decide (q * unit < high * up)) = true) : q ≠ 0 := by
      rintro rfl
      rw [Nat.zero_mul] at inside
      split at inside
      · exact absurd (of_decide_eq_true (Bool.and_eq_true_iff.mp inside).1) (Nat.not_le.mpr least)
      · exact absurd (of_decide_eq_true (Bool.and_eq_true_iff.mp inside).1) (Nat.not_lt_zero _)
    split
    · next lower upper =>
      refine .inr ?_
      split
      · exact nonzero lower
      · exact Nat.succ_ne_zero _
    · next lower upper => exact .inr (nonzero lower)
    · exact .inr (Nat.succ_ne_zero _)
    · exact ih _

/-- The shortest digits of a number other than zero are none, or they are those of a positive number. -/
theorem shortest_nonzero {x : Binary64} (h : x.mantissa ≠ 0) : x.shortest = (0, 0) ∨ x.shortest.1 ≠ 0 := by
  refine search_nonzero ?_ 18 1
  have up : 0 < (powerOfTwo x.exponent).1 := by
    unfold powerOfTwo
    split
    · exact Nat.one_pos
    · exact Nat.pow_pos (by decide)
  refine Nat.mul_pos ?_ up
  split <;> omega

theorem dropZeros_nonzero (fuel : Nat) {n : Nat} (e : Int) (h : n ≠ 0) : (dropZeros fuel n e).1 ≠ 0 := by
  induction fuel generalizing n e with
  | zero => exact h
  | succ fuel ih =>
    rw [dropZeros]
    split
    · next ends =>
      have ends : n % 10 = 0 := by simpa using (Bool.and_eq_true_iff.mp ends).2
      exact ih _ (by omega)
    · exact h

theorem digits_nonzero {x : Binary64} (h : x.mantissa ≠ 0) :
    dropZeros 20 x.shortest.1 x.shortest.2 = (0, 0) ∨ (dropZeros 20 x.shortest.1 x.shortest.2).1 ≠ 0 := by
  rcases shortest_nonzero h with none | some
  · rw [none]
    exact .inl rfl
  · exact .inr (dropZeros_nonzero 20 _ some)

end Binary64

namespace Json

/-! ## The parts of a number -/

section Numbers

variable {c : Char} {cs : List Char} {n : Nat}

theorem utf8EncodeChar_digit (h : c.isDigit = true) :
    ∃ b, String.utf8EncodeChar c = [b] ∧ isDigitByte b = true ∧ b.toNat = c.toNat := by
  obtain ⟨least, most⟩ : 48 ≤ c.toNat ∧ c.toNat ≤ 57 := by simpa [Char.isDigit_iff_toNat] using h
  have value : (UInt8.ofNat c.toNat).toNat = c.toNat := UInt8.toNat_ofNat_of_lt' (by change _ < 256; omega)
  refine ⟨_, Text.utf8EncodeChar_ascii (by omega), ?_, value⟩
  rw [isDigitByte, Bool.and_eq_true, decide_eq_true_eq, decide_eq_true_eq, UInt8.le_iff_toNat_le,
    UInt8.le_iff_toNat_le, value]
  exact ⟨least, most⟩

theorem allDigits_encoded (h : ∀ c ∈ cs, c.isDigit = true) : AllDigits (cs.flatMap String.utf8EncodeChar) := by
  intro b mem
  obtain ⟨c, inside, mem⟩ := List.mem_flatMap.mp mem
  obtain ⟨d, form, digit, -⟩ := utf8EncodeChar_digit (h c inside)
  rw [form, List.mem_singleton] at mem
  exact mem ▸ digit

/-- Digits of which the first is no zero, if it is not alone. -/
structure IsNumeral (cs : List Char) : Prop where
  digits : ∀ c ∈ cs, c.isDigit = true
  filled : cs ≠ []
  front : cs.head? = some '0' → cs = ['0']

theorem IsNumeral.isWhole (h : IsNumeral cs) : IsWhole (cs.flatMap String.utf8EncodeChar) := by
  obtain ⟨c, rest, rfl⟩ := List.exists_cons_of_ne_nil h.filled
  obtain ⟨first, others⟩ := List.forall_mem_cons.mp h.digits
  by_cases zero : c = '0'
  · subst zero
    rw [h.front rfl]
    exact .zero
  · obtain ⟨b, form, digit, value⟩ := utf8EncodeChar_digit first
    have nonzero : b ≠ 0x30 := by
      rintro rfl
      exact zero (Char.toNat_inj.mp value.symm)
    rw [List.flatMap_cons, form]
    exact .digits b digit nonzero (allDigits_encoded others)

theorem isDigit_of_mem_toDigits (h : c ∈ Nat.toDigits 10 n) : c.isDigit = true :=
  Nat.isDigit_of_mem_toDigits (by decide) (by decide) h

theorem head?_toDigits (positive : n ≠ 0) : (Nat.toDigits 10 n).head? ≠ some '0' := by
  induction n using Nat.strongRecOn with
  | ind n ih =>
    rw [Nat.toDigits_eq_if (by decide)]
    split
    · next small =>
      have digit : ∀ d < 10, d ≠ 0 → d.digitChar ≠ '0' := by decide
      exact fun same => digit n small positive (Option.some.inj same)
    · rw [List.head?_append_of_ne_nil _ Nat.toDigits_ne_nil]
      exact ih (n / 10) (by omega) (by omega)

theorem isNumeral_toDigits (n : Nat) : IsNumeral (Nat.toDigits 10 n) where
  digits _ := isDigit_of_mem_toDigits
  filled := Nat.toDigits_ne_nil
  front zero := by
    by_cases positive : n = 0
    · rw [positive]
      rfl
    · exact absurd zero (head?_toDigits positive)

/-- Zeros may be put behind digits of a positive number. -/
theorem isNumeral_append (positive : n ≠ 0) (h : ∀ c ∈ cs, c.isDigit = true) :
    IsNumeral (Nat.toDigits 10 n ++ cs) where
  digits c mem := (List.mem_append.mp mem).elim isDigit_of_mem_toDigits (h c)
  filled none := Nat.toDigits_ne_nil (List.append_eq_nil_iff.mp none).1
  front zero := by
    rw [List.head?_append_of_ne_nil _ Nat.toDigits_ne_nil] at zero
    exact absurd zero (head?_toDigits positive)

theorem isNumeral_take (n count : Nat) (some : 0 < count) (short : count < (Nat.toDigits 10 n).length) :
    IsNumeral ((Nat.toDigits 10 n).take count) where
  digits c mem := isDigit_of_mem_toDigits (List.mem_of_mem_take mem)
  filled none := by
    have length := congrArg List.length none
    rw [List.length_take, List.length_nil] at length
    omega
  front zero := by
    rw [List.head?_take, if_neg (Nat.ne_of_gt some)] at zero
    have alone := (isNumeral_toDigits n).front zero
    rw [alone, List.length_singleton] at short
    omega

/-- The decimals of a written number behind their point, if it has any. -/
inductive FractionChars : List Char → Prop where
  | none : FractionChars []
  | point {cs : List Char} (filled : cs ≠ []) (digits : ∀ c ∈ cs, c.isDigit = true) : FractionChars ('.' :: cs)

/-- The exponent of a written number behind its mark, if it has one. -/
inductive ExponentChars : List Char → Prop where
  | none : ExponentChars []
  | mark (sign : Char) (signed : sign = '-' ∨ sign = '+') (n : Nat) :
      ExponentChars ('e' :: sign :: Nat.toDigits 10 n)

/-- The parts of a written number behind its sign. No zero stands in front of an exponent. -/
structure NumberParts (whole fraction exponent : List Char) : Prop where
  isWhole : IsNumeral whole
  isFraction : FractionChars fraction
  isExponent : ExponentChars exponent
  front : exponent = [] ∨ whole.head? ≠ some '0'

/-- A number as it is written behind its sign. -/
def UnsignedChars (cs : List Char) : Prop :=
  ∃ whole fraction exponent, NumberParts whole fraction exponent ∧ cs = whole ++ (fraction ++ exponent)

theorem FractionChars.isFraction (h : FractionChars cs) : IsFraction (cs.flatMap String.utf8EncodeChar) := by
  cases h with
  | none => exact .none
  | point filled digits =>
    obtain ⟨c, rest, rfl⟩ := List.exists_cons_of_ne_nil filled
    obtain ⟨first, others⟩ := List.forall_mem_cons.mp digits
    obtain ⟨b, form, digit, -⟩ := utf8EncodeChar_digit first
    rw [List.flatMap_cons, List.flatMap_cons, form]
    exact .decimals b digit (allDigits_encoded others)

theorem ExponentChars.isExponent (h : ExponentChars cs) : IsExponent (cs.flatMap String.utf8EncodeChar) := by
  cases h with
  | none => exact .none
  | mark sign signed n =>
    obtain ⟨c, rest, form⟩ := List.exists_cons_of_ne_nil (Nat.toDigits_ne_nil (b := 10) (n := n))
    have digits : ∀ d ∈ c :: rest, d.isDigit = true := fun d mem => isDigit_of_mem_toDigits (form ▸ mem)
    obtain ⟨first, others⟩ := List.forall_mem_cons.mp digits
    obtain ⟨b, byte, digit, -⟩ := utf8EncodeChar_digit first
    have rest := allDigits_encoded others
    rw [form, List.flatMap_cons, List.flatMap_cons, List.flatMap_cons, byte]
    rcases signed with rfl | rfl
    · exact .digits 0x65 [0x2D] b (.inl rfl) (.inr (.inr rfl)) digit rest
    · exact .digits 0x65 [0x2B] b (.inl rfl) (.inr (.inl rfl)) digit rest

theorem UnsignedChars.isUnsigned (h : UnsignedChars cs) : IsUnsigned (cs.flatMap String.utf8EncodeChar) := by
  obtain ⟨whole, fraction, exponent, parts, rfl⟩ := h
  rw [List.flatMap_append, List.flatMap_append]
  exact ⟨_, _, parts.isWhole.isWhole, ⟨_, _, parts.isFraction.isFraction, parts.isExponent.isExponent, rfl⟩, rfl⟩

/-- Behind the sign of a binary number stands a written number. -/
theorem chars_unsigned (x : Binary64) :
    ∃ body, x.chars = (if x.negative then ['-'] else []) ++ body ∧ UnsignedChars body := by
  have zero : IsNumeral ['0'] := isNumeral_toDigits 0
  have decimal : FractionChars ['.', '0'] := .point zero.filled zero.digits
  unfold Binary64.chars
  dsimp only
  split
  · exact ⟨_, rfl, ['0'], ['.', '0'], [], ⟨zero, decimal, .none, .inl rfl⟩, rfl⟩
  next filled =>
  have mantissa : x.mantissa ≠ 0 := by simpa using filled
  have nonzero := Binary64.digits_nonzero mantissa
  generalize Binary64.dropZeros 20 x.shortest.1 x.shortest.2 = digits at nonzero
  obtain ⟨n, e⟩ := digits
  dsimp only at nonzero ⊢
  generalize exponent : e + ((Nat.toDigits 10 n).length : Int) = point
  have digits : ∀ c ∈ Nat.toDigits 10 n, c.isDigit = true := fun c => isDigit_of_mem_toDigits
  have zeros (count : Nat) : ∀ c ∈ List.replicate count '0', c.isDigit = true := fun c mem =>
    (List.eq_of_mem_replicate mem).symm ▸ rfl
  refine ⟨_, rfl, ?_⟩
  split
  · -- Without an exponent.
    split
    · -- A number below one.
      have fraction : ∀ c ∈ List.replicate point.natAbs '0' ++ Nat.toDigits 10 n, c.isDigit = true := fun c mem =>
        (List.mem_append.mp mem).elim (zeros _ c) (digits c)
      have filled : List.replicate point.natAbs '0' ++ Nat.toDigits 10 n ≠ [] :=
        List.append_ne_nil_of_right_ne_nil _ Nat.toDigits_ne_nil
      exact ⟨['0'], _, [], ⟨zero, .point filled fraction, .none, .inl rfl⟩, by rw [List.append_nil]; rfl⟩
    next above =>
    split
    · -- A whole number.
      next long =>
      have whole : IsNumeral
          (Nat.toDigits 10 n ++ List.replicate (point.natAbs - (Nat.toDigits 10 n).length) '0') := by
        rcases nonzero with none | positive
        · cases none
          have alone : point.natAbs - (Nat.toDigits 10 0).length = 0 := by omega
          rw [alone]
          exact isNumeral_toDigits 0
        · exact isNumeral_append positive (zeros _)
      exact ⟨_, ['.', '0'], [], ⟨whole, decimal, .none, .inl rfl⟩, rfl⟩
    · next short =>
      have whole := isNumeral_take n point.natAbs (by omega) (by omega)
      have filled : (Nat.toDigits 10 n).drop point.natAbs ≠ [] := by
        rw [Ne, List.drop_eq_nil_iff]
        omega
      have fraction : ∀ c ∈ (Nat.toDigits 10 n).drop point.natAbs, c.isDigit = true := fun c mem =>
        digits c (List.mem_of_mem_drop mem)
      exact ⟨_, _, [], ⟨whole, .point filled fraction, .none, .inl rfl⟩, by rw [List.append_nil]⟩
  · next outside =>
    have mark : ExponentChars
        ('e' :: (if point - 1 < 0 then '-' else '+') :: Nat.toDigits 10 (point - 1).natAbs) :=
      .mark _ (by split <;> simp) _
    -- No digits are written out as a zero, which has no exponent.
    have positive : n ≠ 0 := by
      rcases nonzero with none | positive
      · cases none
        have one : (Nat.toDigits 10 0).length = 1 := rfl
        have outside : ¬(-5 < point ∧ point ≤ 16) := by simpa using outside
        omega
      · exact positive
    have front := head?_toDigits positive
    split
    · next d form =>
      have whole : IsNumeral [d] := form ▸ isNumeral_toDigits n
      exact ⟨[d], [], _, ⟨whole, .none, mark, .inr (form ▸ front)⟩, rfl⟩
    · next d rest several form =>
      have digits : ∀ c ∈ d :: rest, c.isDigit = true := fun c mem => digits c (form ▸ mem)
      obtain ⟨first, others⟩ := List.forall_mem_cons.mp digits
      rw [form] at front
      have whole : IsNumeral [d] := ⟨List.forall_mem_singleton.mpr first, nofun, fun zero => absurd zero front⟩
      exact ⟨[d], '.' :: rest, _, ⟨whole, .point several others, mark, .inr front⟩, rfl⟩
    · next none => exact absurd none Nat.toDigits_ne_nil

/-- The text of an integer: a minus sign if it has one, and its digits. -/
def integerText (negative : Bool) (n : Nat) : String :=
  String.ofList ((if negative then ['-'] else []) ++ Nat.toDigits 10 n)

/-- A whole number is written as its sign and the digits of its absolute value. -/
theorem toString_whole (n : Int) : toString (Number.whole n) = integerText (decide (n < 0)) n.natAbs := by
  have form : toString (Number.whole n) = n.repr := rfl
  rw [form, Int.repr_eq_if, integerText]
  by_cases negative : n < 0
  · rw [if_neg (Int.not_le.mpr negative), decide_eq_true negative, if_pos rfl, Nat.repr_eq_ofList_toDigits,
      show (-n).toNat = n.natAbs from by omega, String.ofList_append]
  · rw [if_pos (Int.not_lt.mp negative), decide_eq_false negative, if_neg Bool.false_ne_true,
      Nat.repr_eq_ofList_toDigits, show n.toNat = n.natAbs from by omega, List.nil_append]

/-- Behind the sign of a number stands a written number. -/
theorem toString_unsigned (n : Number) :
    ∃ (negative : Bool) (body : List Char), toString n = String.ofList ((if negative then ['-'] else []) ++ body) ∧
      UnsignedChars body := by
  cases n with
  | whole n =>
    refine ⟨decide (n < 0), _, toString_whole n, _, [], [], ⟨isNumeral_toDigits n.natAbs, .none, .none, .inl rfl⟩, ?_⟩
    rw [List.nil_append, List.append_nil]
  | float x =>
    obtain ⟨body, form, unsigned⟩ := chars_unsigned x
    exact ⟨x.negative, body, congrArg String.ofList form, unsigned⟩

/-- A number with its sign. -/
inductive IsNumber : Bytes → Prop where
  | positive {t : Bytes} : IsUnsigned t → IsNumber t
  | negative {t : Bytes} : IsUnsigned t → IsNumber (0x2D :: t)

theorem IsNumber.isScalar {t : Bytes} (h : IsNumber t) : IsScalar t := by
  cases h with
  | positive h => exact .positive h
  | negative h => exact .negative h

/-- **The text of a number is a number.** -/
theorem isNumber_toString (n : Number) : IsNumber (Text.encode (toString n)) := by
  obtain ⟨negative, body, form, unsigned⟩ := toString_unsigned n
  rw [form, Text.encode_ofList]
  cases negative with
  | true => exact .negative unsigned.isUnsigned
  | false => exact .positive unsigned.isUnsigned

end Numbers

end Json

end RecordGate
