import RecordGate.Proofs.Calendar.Taking
import RecordGate.Proofs.Decimal.Reading
import RecordGate.Proofs.Schema.Values
import RecordGate.Proofs.Text.Lowercase

/-!
# Numbers and their texts

A number may arrive as a number, or as the text of its digits, and likewise a truth value. Either gets the same
verdict in every type, the same value or a refusal in the same words, with one exception: a field of truth values
compares a number with one and zero, but of the texts of numbers it knows `1` and `0` alone (`verdict_number_iff`). The
check of a field goes by the verdict (`Field.check_of_filled`).
-/

namespace RecordGate

/-! ## The texts of numbers -/

namespace Decimal

/-- A one or a zero that is not written as `1` or `0`. -/
def IsLongBit (d : Decimal) : Prop := (d.sameNumber .one = true ∨ d.isZero = true) ∧ d ≠ .one ∧ d ≠ .zero

instance (d : Decimal) : Decidable d.IsLongBit := inferInstanceAs (Decidable (_ ∧ _))

/-- Behind the sign stand digits, and perhaps a point among them. -/
theorem chars_form (d : Decimal) :
    ∃ body, d.chars = (if d.negative then ['-'] else []) ++ body ∧ ∀ c ∈ body, c.isDigit = true ∨ c = '.' := by
  obtain ⟨whole, decimals, -, -, digits, form⟩ := d.chars_parts
  have digit (c : Char) (mem : c ∈ whole ++ decimals) : c.isDigit = true := Date.isDigit_of_mem_padded (digits ▸ mem)
  refine ⟨_, form, fun c mem => ?_⟩
  rcases List.mem_append.mp mem with mem | mem
  · exact .inl (digit c (List.mem_append_left _ mem))
  split at mem
  · cases mem
  rcases List.mem_cons.mp mem with rfl | mem
  · exact .inr rfl
  · exact .inl (digit c (List.mem_append_right _ mem))

theorem mem_chars {d : Decimal} {c : Char} (h : c ∈ d.chars) : c.isDigit = true ∨ c = '.' ∨ c = '-' := by
  obtain ⟨body, form, plain⟩ := d.chars_form
  rw [form] at h
  rcases List.mem_append.mp h with mem | mem
  · split at mem
    · exact .inr (.inr (List.mem_singleton.mp mem))
    · cases mem
  · exact (plain c mem).imp_right .inl

/-- A hyphen stands only at the front. -/
theorem hyphen_notMem_tail (d : Decimal) : '-' ∉ d.chars.tail := by
  obtain ⟨body, form, plain⟩ := d.chars_form
  have none : '-' ∉ body := fun mem => (plain '-' mem).elim nofun nofun
  rw [form]
  split
  · exact none
  · exact fun mem => none (List.mem_of_mem_tail mem)

theorem toNat_of_mem_chars {d : Decimal} {c : Char} (h : c ∈ d.chars) : c.toNat < 0x41 := by
  rcases mem_chars h with digit | rfl | rfl
  · have most : c.toNat ≤ 57 := (Char.isDigit_iff_toNat.mp digit).2
    omega
  · decide
  · decide

theorem toString_inj {d e : Decimal} : toString d = toString e ↔ d = e :=
  ⟨fun h => chars_injective (String.ofList_injective h), fun h => h ▸ rfl⟩

theorem trim_toString (d : Decimal) : Text.trim (toString d) = toString d :=
  congrArg String.ofList d.trimChars_toString

theorem lowercase_toString (d : Decimal) : Text.lowercase (toString d) = toString d := by
  have lower (c : Char) (mem : c ∈ d.chars) : Text.IsLower c := by
    have small := toNat_of_mem_chars mem
    exact Text.isLower_of_outside ((Text.outside_ascii (by omega)).mpr (.inl small))
  have chars : (toString d).toList = d.chars := String.toList_ofList
  rw [Text.lowercase, chars, Text.lowercaseFrom_of_isLower lower]
  rfl

/-- Of the words for truth values only the digits are texts of numbers. -/
theorem toString_mem_words {d : Decimal} {words : List String} {digit : Decimal}
    (others : (words.all fun w => w == toString digit || w.toList.any fun c => decide (0x41 ≤ c.toNat)) = true)
    (mem : toString digit ∈ words) : toString d ∈ words ↔ d = digit := by
  refine ⟨fun h => ?_, fun h => h ▸ mem⟩
  rcases Bool.or_eq_true_iff.mp (List.all_eq_true.mp others _ h) with same | letter
  · exact toString_inj.mp (beq_iff_eq.mp same)
  · obtain ⟨c, inside, letter⟩ := List.any_eq_true.mp letter
    have small : c.toNat < 0x41 := toNat_of_mem_chars (by rwa [← String.toList_ofList (l := d.chars)])
    exact absurd (of_decide_eq_true letter) (Nat.not_le.mpr small)

/-- **Of the texts of numbers, `1` and `0` alone are truth values.** -/
theorem truth?_toString (d : Decimal) :
    truth? (toString d) = if d = .one then some true else if d = .zero then some false else none := by
  have one : toString d ∈ ["true", "t", "1", "yes", "y"] ↔ d = .one :=
    toString_mem_words (by decide +kernel) (by decide +kernel)
  have zero : toString d ∈ ["false", "f", "0", "no", "n"] ↔ d = .zero :=
    toString_mem_words (by decide +kernel) (by decide +kernel)
  simp only [truth?, trim_toString, lowercase_toString, List.contains_iff_mem, one, zero]

/-- The text of a number is no date and no timestamp. -/
theorem parse?_toString_eq_none (d : Decimal) :
    Date.parse? (toString d) = none ∧ Timestamp.parse? (toString d) = none := by
  refine parse?_eq_none_of_hyphen ?_
  rw [trimChars_toString]
  exact d.hyphen_notMem_tail

end Decimal

/-! ## Verdicts -/

/-- What comes of a cell in a type: its value, or the words of the refusal. -/
def verdict (type : FieldType) (c : Cell) : Except String Value := (coerce type c).mapError Mismatch.message

section Verdicts

variable {type : FieldType} {c c' : Cell} {d : Decimal}

theorem verdict_of_some {v : Value} (h : coerce? type c = some v) : verdict type c = .ok v := by
  rw [verdict, coerce_eq_ok.mpr h]
  rfl

theorem verdict_of_none (h : coerce? type c = none) : verdict type c = .error (Mismatch.message ⟨type, c⟩) := by
  rw [verdict, coerce, h]
  rfl

/-- Cells that are read alike and quoted alike get the same verdict. -/
theorem verdict_congr (read : coerce? type c = coerce? type c') (quoted : c.display = c'.display) :
    verdict type c = verdict type c' := by
  cases here : coerce? type c with
  | some v => rw [verdict_of_some here, verdict_of_some (read ▸ here)]
  | none =>
    rw [verdict_of_none here, verdict_of_none (read ▸ here), Except.error.injEq, Mismatch.message, Mismatch.message,
      quoted]

theorem coerce?_boolean_number (short : ¬d.IsLongBit) :
    coerce? .boolean (.text (toString d)) = coerce? .boolean (.number d) := by
  have text : coerce? .boolean (.text (toString d)) = (truth? (toString d)).map .bool := rfl
  rw [text, d.truth?_toString, coerce?]
  by_cases one : d = .one
  · subst one
    rfl
  by_cases zero : d = .zero
  · subst zero
    rfl
  · have neither : ¬d.sameNumber .one = true ∧ ¬d.isZero = true := not_or.mp fun bit => short ⟨bit, one, zero⟩
    rw [if_neg neither.1, if_neg neither.2, if_neg one, if_neg zero]
    rfl

/-- **A number and its text are read alike.** -/
theorem coerce?_number (signless : ¬d.IsNegativeZero) (short : ¬(type = .boolean ∧ d.IsLongBit)) :
    coerce? type (.text (toString d)) = coerce? type (.number d) := by
  have read : Decimal.parse? (toString d) = some d := by rw [d.parse?_toString, Decimal.unsignedZero_eq signless]
  cases type with
  | text => exact congrArg (some <| Value.text ·) d.trim_toString
  | integer => exact congrArg (Option.bind · integer?) read
  | decimal => exact congrArg (Option.map Value.number) read
  | boolean => exact coerce?_boolean_number fun long => short ⟨rfl, long⟩
  | date => exact congrArg (Option.map Value.date) d.parse?_toString_eq_none.1
  | timestamp => exact congrArg (Option.map Value.timestamp) d.parse?_toString_eq_none.2

/-- A field of truth values takes a long one or zero as a number and refuses its text. -/
theorem verdict_of_long (long : d.IsLongBit) :
    verdict .boolean (.number d) = .ok (.bool (d.sameNumber .one)) ∧
      ∃ words, verdict .boolean (.text (toString d)) = .error words := by
  obtain ⟨bit, one, zero⟩ := long
  constructor
  · refine verdict_of_some ?_
    rw [coerce?]
    split
    · next same => rw [same]
    · next other => rw [if_pos (bit.resolve_left other), Bool.eq_false_iff.mpr other]
  · refine ⟨_, verdict_of_none ?_⟩
    change (truth? (toString d)).map Value.bool = none
    rw [d.truth?_toString, if_neg one, if_neg zero]
    rfl

/-- **A number and its text get the same verdict**, unless they are a long one or zero for a field of truth values. -/
theorem verdict_number_iff (signless : ¬d.IsNegativeZero) :
    verdict type (.number d) = verdict type (.text (toString d)) ↔ ¬(type = .boolean ∧ d.IsLongBit) := by
  refine ⟨?_, fun short => verdict_congr (coerce?_number signless short).symm rfl⟩
  rintro same ⟨rfl, long⟩
  obtain ⟨taken, words, refused⟩ := verdict_of_long long
  rw [taken, refused] at same
  cases same

/-- A truth value and its word get the same verdict. -/
theorem verdict_bool (type : FieldType) (b : Bool) :
    verdict type (.bool b) = verdict type (.text (if b then "true" else "false")) := by
  refine verdict_congr ?_ rfl
  cases b <;> cases type <;> decide +kernel

/-- The check of a field goes by the verdict on its cell. -/
theorem Field.check_of_filled (engine : Pattern.Engine) (f : Field) (row : Nat) (asOf : Date)
    (filled : c.isEmpty = false) :
    f.check engine row asOf (some c) =
      match verdict f.type c with
      | .ok v => (v, f.constraints.filterMap (·.error? engine row f.name asOf v))
      | .error words => (.null, [⟨row, f.name, .typeMismatch, .critical, words⟩]) := by
  have taken : (some c).filter (!·.isEmpty) = some c := by simp [filled]
  rw [Field.check, taken, verdict]
  dsimp only
  cases coerce f.type c <;> rfl

theorem isEmpty_text_number (d : Decimal) : (Cell.text (toString d)).isEmpty = false :=
  Text.isBlankText_of_solid d.isSolid_chars d.chars_ne_nil

theorem isEmpty_text_bool (b : Bool) : (Cell.text (if b then "true" else "false")).isEmpty = false := by
  cases b with
  | true => decide +kernel
  | false => decide +kernel

end Verdicts

end RecordGate
