import RecordGate.Expr.Evaluate
import RecordGate.Proofs.FileState
import RecordGate.Proofs.Schema.Values

/-!
# Equality of values

Values that the operator `==` holds equal are the same value, but for numbers: these are equal when they
stand for the same number, whatever their scale, and zero equals zero with a sign. So among the values of
one field the same value is an equal value of the same form (`Value.eq_iff_equals`), and the parts of a key
tell the same values apart (`Value.component_eq_iff_equals`).
-/

namespace RecordGate

theorem Date.cmp_eq_iff {a b : Date} : a.cmp b = .eq ↔ a = b := by
  rw [cmp, Ordering.then_eq_eq, Ordering.then_eq_eq, Int.compare_eq_eq, Nat.compare_eq_eq, Nat.compare_eq_eq]
  cases a
  cases b
  rw [Date.mk.injEq]

theorem Timestamp.cmp_eq_iff {a b : Timestamp} : a.cmp b = .eq ↔ a = b := by
  rw [cmp, Ordering.then_eq_eq, Ordering.then_eq_eq, Date.cmp_eq_iff, Nat.compare_eq_eq, Nat.compare_eq_eq]
  cases a
  cases b
  rw [Timestamp.mk.injEq]

/-- Equal numbers of one sign and one scale have one mantissa. -/
theorem Decimal.eq_iff_cmp {a b : Decimal} :
    a = b ↔ a.cmp b = .eq ∧ a.negative = b.negative ∧ a.scale = b.scale := by
  constructor
  · rintro rfl
    exact ⟨Int.compare_eq_eq.mpr rfl, rfl, rfl⟩
  · rintro ⟨same, negative, scale⟩
    rw [cmp, Int.compare_eq_eq, scale] at same
    have positive : ((Nat.pow 10 b.scale : Nat) : Int) ≠ 0 := by
      have : 0 < Nat.pow 10 b.scale := Nat.pow_pos (by decide)
      omega
    have signed : a.signed = b.signed := Int.eq_of_mul_eq_mul_right positive same
    have mantissa : a.mantissa = b.mantissa := by
      rw [Decimal.signed, Decimal.signed, negative] at signed
      split at signed <;> omega
    cases a
    cases b
    cases negative
    cases scale
    cases mantissa
    rfl

namespace Value

/-- The operator `==` holds between the values. -/
def Equals (v w : Value) : Prop := Expr.compareValues .eq v w = .ok true

instance (v w : Value) : Decidable (v.Equals w) := by
  unfold Equals
  infer_instance

/-- The sign and the scale that a number is written with. -/
def form? (v : Value) : Option (Bool × Nat) := v.decimal?.map fun d => (d.negative, d.scale)

theorem equals_null {v : Value} : v.Equals .null ↔ v = .null := by
  cases v with
  | null => exact ⟨fun _ => rfl, fun _ => rfl⟩
  | bool | number | text | date | timestamp => exact ⟨fun h => (Bool.noConfusion (Except.ok.inj h)), nofun⟩

theorem null_equals {v : Value} : Equals .null v ↔ v = .null := by
  cases v with
  | null => exact ⟨fun _ => rfl, fun _ => rfl⟩
  | bool | number | text | date | timestamp => exact ⟨fun h => (Bool.noConfusion (Except.ok.inj h)), nofun⟩

/-- Where two values other than null have an order, they are equal when it says so. -/
theorem equals_iff_of_order {v w : Value} {o : Ordering} (hv : v.isNull = false) (hw : w.isNull = false)
    (order : Expr.order? .eq v w = some o) : v.Equals w ↔ o = .eq := by
  rw [Equals, Expr.compareValues, hv, hw, order]
  change Except.ok (Expr.satisfies .eq o) = .ok true ↔ _
  rw [Except.ok.injEq, Expr.satisfies, beq_iff_eq]

/-- Values of one kind are the same when they are equal and, if they are numbers, of one form. -/
theorem eq_iff_equals_of_kind {v w : Value} (kinds : v.kind = w.kind) : v = w ↔ v.Equals w ∧ v.form? = w.form? := by
  cases v <;> cases w <;> cases kinds
  case null.null => exact ⟨fun _ => ⟨rfl, rfl⟩, fun _ => rfl⟩
  case bool.bool a b =>
    rw [equals_iff_of_order rfl rfl rfl]
    cases a <;> cases b <;> decide
  case number.number a b =>
    rw [equals_iff_of_order rfl rfl rfl, Value.number.injEq, Decimal.eq_iff_cmp]
    simp only [form?, decimal?, Option.map_some, Option.some.injEq, Prod.mk.injEq]
  case text.text a b =>
    rw [equals_iff_of_order rfl rfl rfl, Value.text.injEq, Std.compare_eq_iff_eq]
    exact (and_iff_left rfl).symm
  case date.date a b =>
    -- Days are compared by their midnights.
    have midnights : Timestamp.midnight a = Timestamp.midnight b ↔ a = b :=
      ⟨fun same => congrArg Timestamp.date same, fun same => same ▸ rfl⟩
    rw [equals_iff_of_order rfl rfl rfl, Value.date.injEq, Timestamp.cmp_eq_iff, midnights]
    exact (and_iff_left rfl).symm
  case timestamp.timestamp a b =>
    rw [equals_iff_of_order rfl rfl rfl, Value.timestamp.injEq, Timestamp.cmp_eq_iff]
    exact (and_iff_left rfl).symm

/-- **Of the values of a field, the same value is an equal value of the same form.** -/
theorem eq_iff_equals {type : FieldType} {v w : Value} (hv : v.IsOf type) (hw : w.IsOf type) :
    v = w ↔ v.Equals w ∧ v.form? = w.form? := by
  rcases hv with rfl | hv
  · rw [null_equals]
    exact ⟨by rintro rfl; exact ⟨rfl, rfl⟩, fun h => h.1.symm⟩
  rcases hw with rfl | hw
  · rw [equals_null]
    exact ⟨by rintro rfl; exact ⟨rfl, rfl⟩, fun h => h.1⟩
  · exact eq_iff_equals_of_kind (hv.trans hw.symm)

/-- The parts of a key tell the values of a field apart. -/
theorem component_eq_iff_equals {type : FieldType} {v w : Value} (hv : v.IsOf type) (hw : w.IsOf type) :
    FileState.component v = FileState.component w ↔ v.Equals w ∧ v.form? = w.form? := by
  rw [← eq_iff_equals hv hw, FileState.component_eq_iff]
  constructor
  · rintro ⟨null, written⟩
    rcases hv with rfl | hv
    · exact (null.mp rfl).symm
    rcases hw with rfl | hw
    · exact null.mpr rfl
    exact eq_of_written (hv.trans hw.symm) written
  · rintro rfl
    exact ⟨Iff.rfl, rfl⟩

end Value

end RecordGate
