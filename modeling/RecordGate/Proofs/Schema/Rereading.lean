import RecordGate.Proofs.Calendar.Reading
import RecordGate.Proofs.Decimal.Reading
import RecordGate.Proofs.Schema.Values

/-!
# Checking written values again

A value of a type is written as text, and the text is read as the same value of the type, whatever cell it came from;
only a zero loses its sign (`coerce_written`). Conditions do not tell two such values apart (`Condition.brokenBy_same`),
so a field whose value is checked again has the same errors (`Field.check_written`), and so has a whole row
(`Schema.check_written`).
-/

namespace RecordGate

/-! ## Sameness of values -/

/-- The same value. Numbers are the same when they are equal and have one scale: a zero may lose its sign. -/
def Value.Same : Value → Value → Prop
  | .number d, .number e => d.sameNumber e = true ∧ d.scale = e.scale
  | v, w => v = w

namespace Value

variable {v w : Value}

theorem same_number_iff {d e : Decimal} :
    Same (.number d) (.number e) ↔ d.signed = e.signed ∧ d.scale = e.scale := by
  rw [Same, and_congr_left_iff]
  intro scale
  rw [Decimal.sameNumber, Decimal.cmp, beq_iff_eq, Int.compare_eq_eq, scale]
  have positive : ((Nat.pow 10 e.scale : Nat) : Int) ≠ 0 := by
    have : 0 < Nat.pow 10 e.scale := Nat.pow_pos (by decide)
    omega
  exact ⟨Int.eq_of_mul_eq_mul_right positive, fun same => by rw [same]⟩

theorem same_refl (v : Value) : v.Same v := by
  cases v with
  | number d => exact same_number_iff.mpr ⟨rfl, rfl⟩
  | null | bool | text | date | timestamp => rfl

end Value

/-- Equal numbers of one scale break the same conditions. -/
theorem Condition.brokenBy_same {v w : Value} (h : v.Same w) (c : Condition) (engine : Pattern.Engine) (asOf : Date) :
    c.brokenBy engine asOf v = c.brokenBy engine asOf w := by
  cases v with
  | number d =>
    cases w with
    | number e =>
      obtain ⟨signed, scale⟩ := Value.same_number_iff.mp h
      cases c <;> simp only [brokenBy, Decimal.le, Decimal.lt, Decimal.cmp, signed, scale, Value.date?]
    | null | bool | text | date | timestamp => cases h
  | null | bool | text | date | timestamp =>
    cases h
    rfl

/-! ## Values that are read back -/

/-- The same value, where a zero has no sign. -/
def Value.unsignedZero : Value → Value
  | .number d => .number d.unsignedZero
  | v => v

theorem Value.same_unsignedZero (v : Value) : v.Same v.unsignedZero := by
  cases v with
  | number d => exact same_number_iff.mpr ⟨d.signed_unsignedZero.symm, rfl⟩
  | null | bool | text | date | timestamp => rfl

/-- A number that is zero with a sign. -/
def Value.IsNegativeZero (v : Value) : Prop := ∃ d, v = .number d ∧ d.IsNegativeZero

theorem Value.unsignedZero_eq {v : Value} (h : ¬v.IsNegativeZero) : v.unsignedZero = v := by
  cases v with
  | number d => exact congrArg Value.number (Decimal.unsignedZero_eq fun zero => h ⟨d, rfl, zero⟩)
  | null | bool | text | date | timestamp => rfl

/-- Written as text, the value is read as itself, but for the sign of a zero. What is no text is not blank. -/
structure Value.ReadsBack (v : Value) (type : FieldType) : Prop where
  visible : type ≠ .text → Text.isBlankText v.written = false
  read : coerce? type (.text v.written) = some v.unsignedZero

variable {type : FieldType}

theorem readsBack_text {s : String} (trimmed : Text.trim s = s) : (Value.text s).ReadsBack .text :=
  ⟨fun other => absurd rfl other, congrArg (some <| Value.text ·) trimmed⟩

theorem readsBack_solid {cs : List Char} (solid : Text.IsSolid cs) : (Value.text (String.ofList cs)).ReadsBack .text :=
  readsBack_text (by rw [Text.trim, Text.trimChars_ofList solid])

theorem readsBack_decimal (d : Decimal) : (Value.number d).ReadsBack .decimal :=
  ⟨fun _ => Text.isBlankText_of_solid d.isSolid_chars d.chars_ne_nil,
    congrArg (Option.map Value.number) d.parse?_toString⟩

/-- A whole number has no sign when it is zero. -/
theorem readsBack_integer {d : Decimal} {v : Value} (h : integer? d = some v) : v.ReadsBack .integer := by
  unfold integer? at h
  split at h
  · cases h
    have whole : integer? d.trunc = some (.number d.trunc) := by
      simp [integer?, Decimal.isIntegral, Decimal.trunc, Nat.mod_one]
    refine ⟨fun _ => Text.isBlankText_of_solid d.trunc.isSolid_chars d.trunc.chars_ne_nil, ?_⟩
    change (Decimal.parse? (toString d.trunc)).bind integer? = some (.number d.trunc.unsignedZero)
    rw [Decimal.parse?_toString, Decimal.unsignedZero_trunc]
    exact whole
  · cases h

theorem readsBack_bool (b : Bool) : (Value.bool b).ReadsBack .boolean := by
  cases b with
  | true => exact ⟨fun _ => by decide +kernel, by decide +kernel⟩
  | false => exact ⟨fun _ => by decide +kernel, by decide +kernel⟩

theorem readsBack_date (d : Date) : (Value.date d).ReadsBack .date :=
  ⟨fun _ => Text.isBlankText_of_solid d.isSolid_chars d.chars_ne_nil,
    congrArg (Option.map Value.date) d.parse?_toString⟩

theorem readsBack_timestamp (t : Timestamp) : (Value.timestamp t).ReadsBack .timestamp := by
  refine ⟨fun _ => Text.isBlankText_of_solid t.isSolid_chars t.chars_ne_nil, ?_⟩
  change (Timestamp.parse? (toString t)).map Value.timestamp = _
  rw [Timestamp.parse?_toString, Option.map_some]
  rfl

theorem readsBack_of_map {α : Type} {o : Option α} {make : α → Value} {v : Value}
    (made : ∀ a, (make a).ReadsBack type) (h : o.map make = some v) : v.ReadsBack type := by
  obtain ⟨a, -, rfl⟩ := Option.map_eq_some_iff.mp h
  exact made a

/-- **What a cell other than null is read as, is read back** when it is written. -/
theorem readsBack_of_coerce? {cell : Cell} {v : Value} (h : coerce? type cell = some v) (given : cell ≠ .null) :
    v.ReadsBack type := by
  revert h
  fun_cases coerce? type cell with
  | case1 => exact absurd rfl given
  | case2 s =>
    intro h
    cases h
    exact readsBack_text (Text.trim_trim s)
  | case3 d =>
    intro h
    cases h
    exact readsBack_solid d.isSolid_chars
  | case4 b =>
    intro h
    cases h
    cases b with
    | true => exact readsBack_text (by decide +kernel)
    | false => exact readsBack_text (by decide +kernel)
  | case5 => exact readsBack_integer
  | case6 =>
    intro h
    obtain ⟨d, -, whole⟩ := Option.bind_eq_some_iff.mp h
    exact readsBack_integer whole
  | case7 d =>
    intro h
    cases h
    exact readsBack_decimal d
  | case8 => exact readsBack_of_map readsBack_decimal
  | case9 | case10 | case11 =>
    intro h
    cases h
    exact readsBack_bool _
  | case13 => exact readsBack_of_map readsBack_bool
  | case14 => exact readsBack_of_map readsBack_date
  | case15 => exact readsBack_of_map readsBack_timestamp
  | case12 | case16 =>
    intro h
    cases h

/-- The text that a cell is read as is blank only where the cell is. -/
theorem isBlankText_of_coerce?_text {cell : Cell} {v : Value} (h : coerce? .text cell = some v)
    (filled : cell.isEmpty = false) : Text.isBlankText v.written = false := by
  cases cell with
  | null => cases filled
  | text s =>
    cases h
    exact Text.isBlankText_trim filled
  | number d =>
    cases h
    exact Text.isBlankText_of_solid d.isSolid_chars d.chars_ne_nil
  | bool b =>
    cases h
    cases b with
    | true => decide +kernel
    | false => decide +kernel

/-- The written value is not blank, and is read as the same value of the type. -/
def Value.Rereads (v : Value) (type : FieldType) : Prop :=
  Text.isBlankText v.written = false ∧ ∃ w, coerce? type (.text v.written) = some w ∧ v.Same w

/-- What a cell that is not empty is read as, is not blank when it is written. -/
theorem rereads_of_coerce? {cell : Cell} {v : Value} (h : coerce? type cell = some v) (filled : cell.isEmpty = false) :
    v.Rereads type := by
  have given : cell ≠ .null := by
    rintro rfl
    cases filled
  have back := readsBack_of_coerce? h given
  refine ⟨?_, v.unsignedZero, back.read, v.same_unsignedZero⟩
  by_cases text : type = .text
  · subst text
    exact isBlankText_of_coerce?_text h filled
  · exact back.visible text

/--
**Typed values are read back as themselves.** What a cell is read as, other than null, is written, and the text is
read as an equal value of the type: a number with the same scale, and any other value with all its parts, such as the
fraction of a second and the leap second of a timestamp. Only a zero may lose its sign. Likewise every decimal is read
back from its text.
-/
theorem coerce_written :
    (∀ type cell v, coerce type cell = .ok v → v ≠ .null →
      ∃ w, coerce type (.text v.written) = .ok w ∧ v.Same w ∧ (¬v.IsNegativeZero → w = v)) ∧
    ∀ d : Decimal, ∃ e, Decimal.parse? (toString d) = some e ∧ d.sameNumber e = true ∧ e.scale = d.scale ∧
      (¬d.IsNegativeZero → e = d) := by
  refine ⟨fun type cell v h present => ?_, fun d => ?_⟩
  · have given : cell ≠ .null := by
      rintro rfl
      cases coerce_eq_ok.mp h
      exact present rfl
    have back := readsBack_of_coerce? (coerce_eq_ok.mp h) given
    exact ⟨v.unsignedZero, coerce_eq_ok.mpr back.read, v.same_unsignedZero, Value.unsignedZero_eq⟩
  · have same : (Value.number d).Same (.number d.unsignedZero) := Value.same_unsignedZero _
    exact ⟨d.unsignedZero, d.parse?_toString, same.1, rfl, Decimal.unsignedZero_eq⟩

/-- Half a second into a leap second, with blanks around the text and between day and clock. -/
theorem coerce_written_leap_second :
    let v : Value := .timestamp ⟨⟨2016, 12, 31, by decide⟩, 86399, 1500000000, by decide, by decide, by decide⟩
    coerce .timestamp (.text " 2016-12-31  23:59:60.5 ") = .ok v ∧ v ≠ .null ∧ ¬v.IsNegativeZero ∧
      v.written = "2016-12-31T23:59:60.500" ∧ coerce .timestamp (.text v.written) = .ok v := by
  intro v
  have coerced : coerce .timestamp (.text " 2016-12-31  23:59:60.5 ") = .ok v := coerce_eq_ok.mpr (by decide +kernel)
  have signed : ¬v.IsNegativeZero := fun ⟨d, same, _⟩ => Value.noConfusion same
  obtain ⟨w, read, -, same⟩ := coerce_written.1 _ _ v coerced nofun
  exact ⟨coerced, nofun, signed, by decide +kernel, same signed ▸ read⟩

/-! ## A field -/

/-- The same error in another row. -/
def FieldError.inRow (e : FieldError) (row : Nat) : FieldError := { e with row }

theorem Constraint.error?_same {v w : Value} (h : v.Same w) (c : Constraint) (engine : Pattern.Engine)
    (row again : Nat) (field : String) (asOf : Date) :
    c.error? engine again field asOf w = (c.error? engine row field asOf v).map (·.inRow again) := by
  rw [error?, error?, Condition.brokenBy_same h]
  split
  · rfl
  · rfl

namespace Field

variable {f : Field} {engine : Pattern.Engine} {asOf : Date} {cell : Option Cell}

theorem check_of_empty (row : Nat) (empty : cell.filter (!·.isEmpty) = none) :
    f.check engine row asOf cell = (.null,
      if f.required then [⟨row, f.name, .required, .critical, s!"field '{f.name}' is required"⟩] else []) := by
  rw [check, empty]

theorem check_of_value {c : Cell} {v : Value} (row : Nat) (filled : cell.filter (!·.isEmpty) = some c)
    (read : coerce? f.type c = some v) :
    f.check engine row asOf cell = (v, f.constraints.filterMap (·.error? engine row f.name asOf v)) := by
  rw [check, filled]
  simp only [coerce, read]

theorem check_of_mismatch {c : Cell} (row : Nat) (filled : cell.filter (!·.isEmpty) = some c)
    (unread : coerce? f.type c = none) :
    (f.check engine row asOf cell).2 = [⟨row, f.name, .typeMismatch, .critical, (Mismatch.mk f.type c).message⟩] := by
  rw [check, filled]
  simp only [coerce, unread]

/-- **A value without critical errors, written and checked again, is the same and has the same errors.** -/
theorem check_written {row : Nat} (clean : (f.check engine row asOf cell).2.any (·.severity.invalidates) = false)
    (again : Nat) :
    (f.check engine row asOf cell).1.Same
        (f.check engine again asOf (some (.text (f.check engine row asOf cell).1.written))).1 ∧
      (f.check engine again asOf (some (.text (f.check engine row asOf cell).1.written))).2 =
        (f.check engine row asOf cell).2.map (·.inRow again) := by
  cases found : cell.filter (!·.isEmpty) with
  | none =>
    rw [check_of_empty row found] at clean ⊢
    have optional : f.required = false := by
      cases required : f.required with
      | false => rfl
      | true =>
        rw [required] at clean
        cases clean
    have blank : (some (Cell.text (Value.written .null))).filter (!·.isEmpty) = none := rfl
    rw [check_of_empty again blank, optional]
    exact ⟨rfl, rfl⟩
  | some c =>
    cases read : coerce? f.type c with
    | none =>
      rw [check_of_mismatch row found read] at clean
      cases clean
    | some v =>
      have filled : c.isEmpty = false := by
        have := (Option.filter_eq_some_iff.mp found).2
        simpa using this
      obtain ⟨visible, w, reread, same⟩ := rereads_of_coerce? read filled
      have refilled : (some (Cell.text v.written)).filter (!·.isEmpty) = some (.text v.written) := by
        simp [Cell.isEmpty, visible]
      rw [check_of_value row found read, check_of_value again refilled reread, List.map_filterMap]
      exact ⟨same, List.filterMap_congr fun c _ => Constraint.error?_same same c engine row again f.name asOf⟩

end Field

/-! ## A row -/

/-- What a row was checked to be, and what it is checked to be as a row of another number. -/
structure RowCheck.SameIn (row : Nat) (before after : RowCheck) : Prop where
  values : ∀ name, Option.Rel Value.Same (before.values.get? name) (after.values.get? name)
  errors : after.errors = before.errors.map (·.inRow row)

namespace Schema

variable {schema : Schema} {engine : Pattern.Engine} {row : RawRow} {asOf : Date}

theorem check_errors (schema : Schema) (engine : Pattern.Engine) (row : RawRow) (asOf : Date) :
    (schema.check engine row asOf).errors =
      schema.fields.flatMap fun f => (f.check engine row.index asOf ((schema.resolve row).get? f.name)).2 := by
  rw [check]
  exact (List.foldl_hom RowCheck.errors fun _ _ => rfl).symm.trans List.foldl_append_eq_append

theorem get?_values (distinct : schema.fieldNames.Nodup) (row : RawRow) (asOf : Date) {f : Field}
    (declared : f ∈ schema.fields) :
    (schema.check engine row asOf).values.get? f.name =
      some (f.check engine row.index asOf ((schema.resolve row).get? f.name)).1 := by
  rw [check_values]
  exact Record.get?_fill distinct declared

theorem get?_values_of_undeclared (row : RawRow) (asOf : Date) {name : String}
    (undeclared : name ∉ schema.fieldNames) : (schema.check engine row asOf).values.get? name = none := by
  rw [check_values]
  exact Record.get?_fill_of_notMem undeclared

/-- **A row without critical errors is checked to be the same** when its written values are checked again. -/
theorem check_written (distinct : schema.fieldNames.Nodup) (clean : (schema.check engine row asOf).hasCritical = false)
    {again : RawRow} (written : ∀ f ∈ schema.fields, ∀ v, (schema.check engine row asOf).values.get? f.name = some v →
      (schema.resolve again).get? f.name = some (.text v.written)) :
    (schema.check engine row asOf).SameIn again.index (schema.check engine again asOf) := by
  have field (f : Field) (declared : f ∈ schema.fields) :
      let before := f.check engine row.index asOf ((schema.resolve row).get? f.name)
      let after := f.check engine again.index asOf ((schema.resolve again).get? f.name)
      before.1.Same after.1 ∧ after.2 = before.2.map (·.inRow again.index) := by
    have cleanField :
        (f.check engine row.index asOf ((schema.resolve row).get? f.name)).2.any (·.severity.invalidates) = false := by
      rw [RowCheck.hasCritical, check_errors, List.any_flatMap, List.any_eq_false] at clean
      exact Bool.eq_false_iff.mpr (clean f declared)
    rw [written f declared _ (get?_values distinct row asOf declared)]
    exact Field.check_written cleanField again.index
  refine ⟨fun name => ?_, ?_⟩
  · by_cases declared : name ∈ schema.fieldNames
    · obtain ⟨f, mem, rfl⟩ := List.mem_map.mp declared
      rw [get?_values distinct row asOf mem, get?_values distinct again asOf mem]
      exact .some (field f mem).1
    · rw [get?_values_of_undeclared row asOf declared, get?_values_of_undeclared again asOf declared]
      exact .none
  · rw [check_errors, check_errors, List.map_flatMap]
    exact List.flatMap_congr fun f mem => (field f mem).2

end Schema

end RecordGate
