import Mathlib.Algebra.Order.Field.Rat
import Mathlib.Data.Rat.Cast.Order
import Mathlib.Tactic.FieldSimp
import RecordGate.Proofs.Schema.Values

/-!
# What conditions ask of values

`Condition.Met` says which values satisfy a condition: numbers are compared as rational numbers, days by the calendar,
and a value of a sort that the condition is not about never satisfies it. The check reports a value exactly when it
does not satisfy the condition (`Condition.brokenBy_iff`), as long as the condition suits the type of the field and
the engine reads its pattern; on a consistent schema both hold of every constraint (`Schema.suits_of_consistent`). So no
constraint is passed over.
-/

namespace RecordGate

/-! ## The order of numbers and days -/

/-- The number that a decimal stands for. -/
def Decimal.toRat (d : Decimal) : ℚ := (d.signed : ℚ) / 10 ^ d.scale

namespace Decimal

theorem toRat_lt_iff (a b : Decimal) :
    a.toRat < b.toRat ↔ a.signed * (Nat.pow 10 b.scale : Nat) < b.signed * (Nat.pow 10 a.scale : Nat) := by
  have positive (n : Nat) : (0 : ℚ) < 10 ^ n := pow_pos (by norm_num) n
  rw [toRat, toRat, div_lt_div_iff₀ (positive _) (positive _), ← Int.cast_lt (R := ℚ)]
  simp only [Nat.pow_eq]
  push_cast
  exact Iff.rfl

/-- **Decimals are compared as the numbers that they stand for.** -/
theorem lt_iff (a b : Decimal) : a.lt b = true ↔ a.toRat < b.toRat := by
  rw [lt, beq_iff_eq, cmp, compare_lt_iff_lt, toRat_lt_iff]

theorem le_iff (a b : Decimal) : a.le b = true ↔ a.toRat ≤ b.toRat := by
  rw [le, bne_iff_ne, cmp, Ne, compare_gt_iff_gt, ← toRat_lt_iff, not_lt]

end Decimal

namespace Date

/-- The first day comes before the second. -/
def Before (a b : Date) : Prop :=
  a.year < b.year ∨ a.year = b.year ∧ (a.month < b.month ∨ a.month = b.month ∧ a.day < b.day)

/-- **Dates are compared as days of the calendar.** -/
theorem lt_iff (a b : Date) : a.lt b = true ↔ a.Before b := by
  simp only [lt, beq_iff_eq, cmp, Ordering.then_eq_lt, compare_lt_iff_lt, compare_eq_iff_eq, Before]

end Date

/-! ## Values of a kind -/

namespace Value

variable {v : Value}

theorem exists_text (h : v.kind = .text) : ∃ s, v = .text s := by
  cases v with
  | text s => exact ⟨s, rfl⟩
  | null | bool | number | date | timestamp => cases h

theorem exists_number (h : v.kind = .number) : ∃ d, v = .number d := by
  cases v with
  | number d => exact ⟨d, rfl⟩
  | null | bool | text | date | timestamp => cases h

theorem exists_date? {type : FieldType} (temporal : type.isTemporal = true) (h : v.kind = type.kind) :
    ∃ day, v.date? = some day := by
  have kinds : v.kind = .date ∨ v.kind = .timestamp := by
    cases type with
    | date => exact .inl h
    | timestamp => exact .inr h
    | text | integer | decimal | boolean => cases temporal
  cases v with
  | date d => exact ⟨d, rfl⟩
  | timestamp t => exact ⟨t.date, rfl⟩
  | null | bool | number | text => rcases kinds with h | h <;> cases h

end Value

/-! ## Patterns -/

theorem Pattern.Engine.reads_iff {engine : Pattern.Engine} {regex : String} :
    engine.reads regex = true ↔ ∃ test, engine.read regex = .ok test := by
  rw [reads]
  cases engine.read regex with
  | ok test => exact ⟨fun _ => ⟨test, rfl⟩, fun _ => rfl⟩
  | error reason => exact ⟨nofun, nofun⟩

/-! ## Conditions -/

namespace Condition

variable {c : Condition} {engine : Pattern.Engine} {asOf : Date} {v : Value} {type : FieldType}

/-- What the condition asks of a value on the processing date, with patterns as the engine reads them. -/
def Met (c : Condition) (engine : Pattern.Engine) (asOf : Date) (v : Value) : Prop :=
  match c with
  | .maxLength most => ∃ s, v = .text s ∧ s.length ≤ most
  | .minLength least => ∃ s, v = .text s ∧ least ≤ s.length
  | .min bound exclusive => ∃ d, v = .number d ∧ if exclusive then bound.toRat < d.toRat else bound.toRat ≤ d.toRat
  | .max bound exclusive => ∃ d, v = .number d ∧ if exclusive then d.toRat < bound.toRat else d.toRat ≤ bound.toRat
  | .oneOf values => ∃ s ∈ values, v = .text s
  | .pattern regex => ∃ s test, v = .text s ∧ engine.read regex = .ok test ∧ test s = true
  | .notInFuture => ∃ day, v.date? = some day ∧ ¬asOf.Before day
  | .notBefore bound => ∃ day, v.date? = some day ∧ ¬day.Before bound

/-- The condition can stand on a field of the type, and the engine reads its pattern. -/
structure Suits (c : Condition) (engine : Pattern.Engine) (type : FieldType) : Prop where
  applies : c.appliesTo type = true
  readable : ∀ regex, c = .pattern regex → engine.reads regex = true

/-- A condition on texts suits no other type, so the values of the field are texts. -/
theorem exists_text_of_suits (applies : (type == .text) = true) (kind : v.kind = type.kind) : ∃ s, v = .text s := by
  rw [beq_iff_eq.mp applies] at kind
  exact Value.exists_text kind

theorem exists_number_of_suits (applies : type.isNumeric = true) (kind : v.kind = type.kind) :
    ∃ d, v = .number d := by
  apply Value.exists_number
  rw [kind]
  cases type with
  | integer | decimal => rfl
  | text | boolean | date | timestamp => cases applies

/-- **A value breaks a condition exactly when it does not satisfy it**, if it is of a type that the condition suits. -/
theorem brokenBy_iff (suits : c.Suits engine type) (kind : v.kind = type.kind) :
    c.brokenBy engine asOf v = true ↔ ¬c.Met engine asOf v := by
  cases c with
  | maxLength most =>
    obtain ⟨s, rfl⟩ := exists_text_of_suits suits.applies kind
    simp [brokenBy, Met]
  | minLength least =>
    obtain ⟨s, rfl⟩ := exists_text_of_suits suits.applies kind
    simp [brokenBy, Met]
  | min bound exclusive =>
    obtain ⟨d, rfl⟩ := exists_number_of_suits suits.applies kind
    cases exclusive <;> simp [brokenBy, Met, Decimal.le_iff, Decimal.lt_iff]
  | max bound exclusive =>
    obtain ⟨d, rfl⟩ := exists_number_of_suits suits.applies kind
    cases exclusive <;> simp [brokenBy, Met, Decimal.le_iff, Decimal.lt_iff]
  | oneOf values =>
    obtain ⟨s, rfl⟩ := exists_text_of_suits suits.applies kind
    simp [brokenBy, Met]
  | pattern regex =>
    obtain ⟨s, rfl⟩ := exists_text_of_suits suits.applies kind
    obtain ⟨test, read⟩ := Pattern.Engine.reads_iff.mp (suits.readable regex rfl)
    simp [brokenBy, Met, Pattern.Engine.isMatch, read, Except.toOption]
  | notInFuture =>
    obtain ⟨day, found⟩ := Value.exists_date? suits.applies kind
    simp [brokenBy, Met, found, Date.lt_iff]
  | notBefore bound =>
    obtain ⟨day, found⟩ := Value.exists_date? suits.applies kind
    simp [brokenBy, Met, found, Date.lt_iff]

end Condition

/-! ## Consistent schemas -/

namespace Schema

variable {engine : Pattern.Engine} {schema : Schema}

theorem constraintFault?_eq_none_iff {owner : RecordType} {f : Field} {c : Constraint} :
    constraintFault? engine owner f c = none ↔ c.condition.Suits engine f.type := by
  rw [constraintFault?]
  split
  · next applies =>
    refine ⟨nofun, fun suits => ?_⟩
    rw [suits.applies] at applies
    cases applies
  · next applies =>
    have applies : c.condition.appliesTo f.type = true := by simpa using applies
    cases form : c.condition with
    | pattern regex =>
      rw [form] at applies
      simp only []
      cases read : engine.read regex with
      | ok test =>
        refine ⟨fun _ => ⟨applies, fun _ same => ?_⟩, fun _ => rfl⟩
        cases same
        exact Pattern.Engine.reads_iff.mpr ⟨test, read⟩
      | error reason =>
        refine ⟨nofun, fun suits => ?_⟩
        obtain ⟨test, found⟩ := Pattern.Engine.reads_iff.mp (suits.readable regex rfl)
        rw [read] at found
        cases found
    | maxLength | minLength | min | max | oneOf | notInFuture | notBefore =>
      rw [form] at applies
      exact ⟨fun _ => ⟨applies, nofun⟩, fun _ => rfl⟩

/-- A field has no fault when its constraints suit it and its last bounds are not inverted. -/
theorem fieldFault?_eq_none_iff {owner : RecordType} {f : Field} : fieldFault? engine owner f = none ↔
    (∀ c ∈ f.constraints, c.condition.Suits engine f.type) ∧
      ∀ least, lastMin? f.constraints = some least → ∀ most, lastMax? f.constraints = some most →
        least.toRat ≤ most.toRat := by
  have constraints : f.constraints.findSome? (constraintFault? engine owner f) = none ↔
      ∀ c ∈ f.constraints, c.condition.Suits engine f.type := by
    simp only [List.findSome?_eq_none_iff, constraintFault?_eq_none_iff]
  rw [← constraints, fieldFault?]
  cases f.constraints.findSome? (constraintFault? engine owner f) with
  | some fault => simp
  | none =>
    cases lastMin? f.constraints with
    | none => simp
    | some least =>
      cases lastMax? f.constraints with
      | none => simp
      | some most => simp [Decimal.lt_iff]

/-- **Every constraint of a consistent schema suits its field.** -/
theorem suits_of_consistent (h : schema.consistent? engine = .ok ()) :
    ∀ f ∈ schema.fields, ∀ c ∈ f.constraints, c.condition.Suits engine f.type := by
  obtain ⟨-, -, fields⟩ := fault?_eq_none_iff.mp (consistent?_eq_ok_iff.mp h)
  exact fun f declared => (fieldFault?_eq_none_iff.mp (fields f declared)).1

end Schema

end RecordGate
