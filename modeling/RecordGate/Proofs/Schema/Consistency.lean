import Mathlib.Data.List.Duplicate
import RecordGate.Pattern.Reader
import RecordGate.Proofs.Schema.Conditions
import RecordGate.Schema.Builtin

/-!
# What the consistency of a schema tells

`Schema.HasFault` says, apart from the check, which faults a schema has. The check refuses a schema only for a fault
that it has, so a schema without a fault is always accepted.

The converse fails at one place. The check keeps one minimum and one maximum of a field while it goes through the
constraints, and a later one takes the place of an earlier one. So it accepts a schema exactly when the names, the
aliases and the constraints are sound and the last bounds of every field are in order (`Schema.consistent?_decided`);
where a field has no second bound of a kind, these are all of its bounds. A bound that a later one replaces is not
looked at (`Schema.bounds_inverted_behind_last`).

Of the engine only matters which patterns it reads (`Schema.consistent?_of_reads`). So the built-in schemas are
consistent for every engine that reads their patterns (`Schema.builtin_consistent`).
-/

namespace RecordGate

/-! ## Bounds -/

namespace Condition

/-- The bound of a minimum. -/
def minimum? : Condition → Option Decimal
  | .min bound _ => some bound
  | _ => none

/-- The bound of a maximum. -/
def maximum? : Condition → Option Decimal
  | .max bound _ => some bound
  | _ => none

end Condition

namespace Field

variable {f : Field} {bound? : Condition → Option Decimal} {b : Decimal}

/-- The bound is one of those that the field has of a kind. -/
def HasBound (f : Field) (bound? : Condition → Option Decimal) (b : Decimal) : Prop :=
  ∃ c ∈ f.constraints, bound? c.condition = some b

/-- The bound is the last one that the field has of a kind. -/
def HasLastBound (f : Field) (bound? : Condition → Option Decimal) (b : Decimal) : Prop :=
  ∃ before c after, f.constraints = before ++ c :: after ∧ bound? c.condition = some b ∧
    ∀ d ∈ after, bound? d.condition = none

/-- No minimum of the field is above a maximum of it. -/
def BoundsInOrder (f : Field) : Prop :=
  ∀ least most, f.HasBound Condition.minimum? least → f.HasBound Condition.maximum? most → least.toRat ≤ most.toRat

/-- The last minimum of the field is not above its last maximum. -/
def LastBoundsInOrder (f : Field) : Prop :=
  ∀ least most, f.HasLastBound Condition.minimum? least → f.HasLastBound Condition.maximum? most →
    least.toRat ≤ most.toRat

/-- The field has at most one minimum and at most one maximum. -/
def SingleBounds (f : Field) : Prop :=
  (f.constraints.filterMap (·.condition.minimum?)).length ≤ 1 ∧
    (f.constraints.filterMap (·.condition.maximum?)).length ≤ 1

theorem HasLastBound.hasBound (h : f.HasLastBound bound? b) : f.HasBound bound? b := by
  obtain ⟨before, c, after, split, bound, -⟩ := h
  exact ⟨c, split ▸ List.mem_append_right before List.mem_cons_self, bound⟩

theorem hasBound_iff : f.HasBound bound? b ↔ b ∈ f.constraints.filterMap fun c => bound? c.condition :=
  List.mem_filterMap.symm

/-- The last bound is the first that is found from behind. -/
theorem hasLastBound_iff :
    f.HasLastBound bound? b ↔ f.constraints.reverse.findSome? (fun c => bound? c.condition) = some b := by
  rw [List.findSome?_eq_some_iff]
  constructor
  · rintro ⟨before, c, after, split, bound, none⟩
    refine ⟨after.reverse, c, before.reverse, ?_, bound, fun d mem => none d (List.mem_reverse.mp mem)⟩
    rw [split, List.reverse_append, List.reverse_cons, List.append_assoc, List.singleton_append]
  · rintro ⟨after, c, before, split, bound, none⟩
    refine ⟨before.reverse, c, after.reverse, ?_, bound, fun d mem => none d (List.mem_reverse.mp mem)⟩
    rw [← List.reverse_reverse f.constraints, split, List.reverse_append, List.reverse_cons, List.append_assoc,
      List.singleton_append]

/-- A field with a bound has a last one. -/
theorem HasBound.exists_last (h : f.HasBound bound? b) : ∃ last, f.HasLastBound bound? last := by
  obtain ⟨c, mem, bound⟩ := h
  simp only [hasLastBound_iff, ← Option.isSome_iff_exists, List.findSome?_isSome_iff, List.mem_reverse]
  exact ⟨c, mem, by rw [bound, Option.isSome_some]⟩

/-- A bound that stands alone is the last one. -/
theorem HasBound.last_of_single (h : f.HasBound bound? b)
    (single : (f.constraints.filterMap fun c => bound? c.condition).length ≤ 1) : f.HasLastBound bound? b := by
  obtain ⟨last, holds⟩ := h.exists_last
  have same : b = last := by
    obtain ⟨only, bounds⟩ := List.length_eq_one_iff.mp
      (Nat.le_antisymm single (List.length_pos_of_mem (hasBound_iff.mp h)))
    have first := hasBound_iff.mp h
    have second := hasBound_iff.mp holds.hasBound
    rw [bounds, List.mem_singleton] at first second
    rw [first, second]
  exact same ▸ holds

theorem BoundsInOrder.last (h : f.BoundsInOrder) : f.LastBoundsInOrder :=
  fun least most min max => h least most min.hasBound max.hasBound

theorem LastBoundsInOrder.of_single (h : f.LastBoundsInOrder) (single : f.SingleBounds) : f.BoundsInOrder :=
  fun least most min max => h least most (min.last_of_single single.1) (max.last_of_single single.2)

end Field

/-! ## Faults -/

namespace Schema

variable {engine : Pattern.Engine} {schema : Schema} {owner : RecordType} {f : Field} {c : Constraint}
  {fault : Fault}

/-- The schema has the fault that is told. Of a pattern the engine says itself why it cannot read it. -/
inductive HasFault (engine : Pattern.Engine) (schema : Schema) : Fault → Prop
  | duplicate {name : String} (twice : schema.fieldNames.Duplicate name) :
      HasFault engine schema (.duplicateField schema.recordType name)
  | dangling {column target : String} (listed : (column, target) ∈ schema.aliases.entries)
      (undeclared : target ∉ schema.fieldNames) :
      HasFault engine schema (.danglingAlias schema.recordType column target)
  | unsuitable {f : Field} {c : Constraint} (declared : f ∈ schema.fields) (mem : c ∈ f.constraints)
      (foreign : c.condition.appliesTo f.type = false) :
      HasFault engine schema (.unsuitable schema.recordType c.condition.name f.type f.name)
  | unreadable {f : Field} {c : Constraint} {regex reason : String} (declared : f ∈ schema.fields)
      (mem : c ∈ f.constraints) (pattern : c.condition = .pattern regex) (unread : engine.read regex = .error reason) :
      HasFault engine schema (.badPattern schema.recordType f.name reason)
  | inverted {f : Field} {least most : Decimal} (declared : f ∈ schema.fields)
      (min : f.HasBound Condition.minimum? least) (max : f.HasBound Condition.maximum? most)
      (above : most.toRat < least.toRat) :
      HasFault engine schema (.invertedBounds schema.recordType least most f.name)

/--
The names of the fields are distinct, the aliases lead to fields, and every constraint can stand on its field, with a
pattern that the engine reads.
-/
structure WellFormed (engine : Pattern.Engine) (schema : Schema) : Prop where
  distinct : schema.fieldNames.Nodup
  aliases : ∀ e ∈ schema.aliases.entries, e.2 ∈ schema.fieldNames
  suits : ∀ f ∈ schema.fields, ∀ c ∈ f.constraints, c.condition.Suits engine f.type

/-! ## The check -/

theorem hasLastBound_minimum_iff {b : Decimal} :
    f.HasLastBound Condition.minimum? b ↔ lastMin? f.constraints = some b := Field.hasLastBound_iff

theorem hasLastBound_maximum_iff {b : Decimal} :
    f.HasLastBound Condition.maximum? b ↔ lastMax? f.constraints = some b := Field.hasLastBound_iff

/-- What is told to be repeated stands twice, among the names or before them. -/
theorem of_firstRepeated {seen names : List String} {name : String} (h : firstRepeated seen names = some name) :
    name ∈ names ∧ name ∈ seen ∨ names.Duplicate name := by
  induction names generalizing seen with
  | nil => cases h
  | cons n rest ih =>
    rw [firstRepeated] at h
    split at h
    · next repeated =>
      cases h
      exact .inl ⟨List.mem_cons_self, List.contains_iff_mem.mp repeated⟩
    · rcases ih h with ⟨later, before⟩ | twice
      · rcases List.mem_cons.mp before with rfl | before
        · exact .inr (List.Mem.duplicate_cons_self later)
        · exact .inl ⟨List.mem_cons_of_mem n later, before⟩
      · exact .inr (twice.duplicate_cons n)

theorem hasFault_of_constraintFault? (declared : f ∈ schema.fields) (mem : c ∈ f.constraints)
    (h : constraintFault? engine schema.recordType f c = some fault) : HasFault engine schema fault := by
  unfold constraintFault? at h
  split at h
  · next foreign =>
    cases h
    exact .unsuitable declared mem (by simpa using foreign)
  · split at h
    · next regex pattern =>
      split at h
      · cases h
      · next reason unread =>
        cases h
        exact .unreadable declared mem pattern unread
    · cases h

theorem hasFault_of_fieldFault? (declared : f ∈ schema.fields)
    (h : fieldFault? engine schema.recordType f = some fault) : HasFault engine schema fault := by
  unfold fieldFault? at h
  split at h
  · next first =>
    cases h
    obtain ⟨c, mem, found⟩ := List.exists_of_findSome?_eq_some first
    exact hasFault_of_constraintFault? declared mem found
  · split at h
    · next least most min max =>
      split at h
      · next above =>
        cases h
        exact .inverted declared (hasLastBound_minimum_iff.mpr min).hasBound (hasLastBound_maximum_iff.mpr max).hasBound
          ((Decimal.lt_iff most least).mp above)
      · cases h
    · cases h

/-- **The check tells only what is the case.** -/
theorem hasFault_of_fault? (h : schema.fault? engine = some fault) : HasFault engine schema fault := by
  unfold fault? at h
  split at h
  · next name repeated =>
    cases h
    rcases of_firstRepeated repeated with ⟨-, before⟩ | twice
    · cases before
    · exact .duplicate twice
  · split at h
    · next e dangling =>
      cases h
      have undeclared := List.find?_some dangling
      exact .dangling (List.mem_of_find?_eq_some dangling) (by simpa using undeclared)
    · obtain ⟨f, declared, found⟩ := List.exists_of_findSome?_eq_some h
      exact hasFault_of_fieldFault? declared found

theorem lastBoundsInOrder_iff : f.LastBoundsInOrder ↔
    ∀ least, lastMin? f.constraints = some least → ∀ most, lastMax? f.constraints = some most →
      least.toRat ≤ most.toRat := by
  simp only [Field.LastBoundsInOrder, hasLastBound_minimum_iff, hasLastBound_maximum_iff]
  exact ⟨fun h least first most second => h least most first second, fun h least most first => h least first most⟩

theorem consistent?_eq_ok_iff_wellFormed :
    schema.consistent? engine = .ok () ↔ WellFormed engine schema ∧ ∀ f ∈ schema.fields, f.LastBoundsInOrder := by
  simp only [consistent?_eq_ok_iff, fault?_eq_none_iff, fieldFault?_eq_none_iff, lastBoundsInOrder_iff]
  constructor
  · rintro ⟨distinct, aliases, fields⟩
    exact ⟨⟨distinct, aliases, fun f declared => (fields f declared).1⟩, fun f declared => (fields f declared).2⟩
  · rintro ⟨⟨distinct, aliases, suits⟩, order⟩
    exact ⟨distinct, aliases, fun f declared => ⟨suits f declared, order f declared⟩⟩

/-- What the answer of the check tells of a schema. -/
structure Decided (engine : Pattern.Engine) (schema : Schema) : Prop where
  /-- A schema is accepted exactly when it is well formed and the last bounds of each field are in order. -/
  accepted_iff : schema.consistent? engine = .ok () ↔
    WellFormed engine schema ∧ ∀ f ∈ schema.fields, f.LastBoundsInOrder
  /-- A schema that is not accepted has the fault that is told. -/
  refused : ∀ fault, schema.consistent? engine = .error fault → HasFault engine schema fault
  /-- A schema that is well formed with all bounds of each field in order is accepted. -/
  complete : WellFormed engine schema → (∀ f ∈ schema.fields, f.BoundsInOrder) → schema.consistent? engine = .ok ()
  /-- In a schema that is accepted all bounds are in order of a field that has no second one of a kind. -/
  sound : schema.consistent? engine = .ok () → ∀ f ∈ schema.fields, f.SingleBounds → f.BoundsInOrder

/-- **The check accepts every schema without a fault**, and no other but for bounds that later ones replace. -/
theorem consistent?_decided (engine : Pattern.Engine) (schema : Schema) : Decided engine schema where
  accepted_iff := consistent?_eq_ok_iff_wellFormed
  refused fault h := by
    unfold consistent? at h
    split at h
    · next found =>
      cases h
      exact hasFault_of_fault? found
    · cases h
  complete wellFormed order :=
    consistent?_eq_ok_iff_wellFormed.mpr ⟨wellFormed, fun f declared => (order f declared).last⟩
  sound h f declared single := ((consistent?_eq_ok_iff_wellFormed.mp h).2 f declared).of_single single

/-- A minimum above the maximum is not seen when a lower minimum stands behind it. -/
theorem bounds_inverted_behind_last :
    let engine : Pattern.Engine := .common
    let five : Decimal := ⟨false, 5, 0, by decide, by decide⟩
    let ten : Decimal := ⟨false, 10, 0, by decide, by decide⟩
    let quantity : Field := ⟨"quantity", .integer, true, [⟨.min ten false, .critical, none⟩,
      ⟨.min .zero false, .critical, none⟩, ⟨.max five false, .critical, none⟩]⟩
    let schema : Schema := ⟨.sales, [quantity], .empty⟩
    schema.consistent? engine = .ok () ∧ quantity.HasBound Condition.minimum? ten ∧
      quantity.HasBound Condition.maximum? five ∧ five.toRat < ten.toRat ∧
      ¬ ∀ f ∈ schema.fields, f.BoundsInOrder := by
  intro engine five ten quantity schema
  have min : quantity.HasBound Condition.minimum? ten := ⟨⟨.min ten false, .critical, none⟩, by decide, rfl⟩
  have max : quantity.HasBound Condition.maximum? five := ⟨⟨.max five false, .critical, none⟩, by decide, rfl⟩
  have above : five.toRat < ten.toRat := (Decimal.lt_iff five ten).mp (by decide)
  refine ⟨rfl, min, max, above, fun order => ?_⟩
  exact absurd (order quantity List.mem_cons_self ten five min max) (not_le.mpr above)

/-! ## The patterns of a schema -/

/-- The patterns that values of the fields are matched with. -/
def patterns (schema : Schema) : List String :=
  schema.fields.flatMap fun f => f.constraints.filterMap fun c =>
    match c.condition with
    | .pattern regex => some regex
    | _ => none

theorem mem_patterns {regex : String} (declared : f ∈ schema.fields) (mem : c ∈ f.constraints)
    (pattern : c.condition = .pattern regex) : regex ∈ schema.patterns := by
  refine List.mem_flatMap.mpr ⟨f, declared, List.mem_filterMap.mpr ⟨c, mem, ?_⟩⟩
  simp only [pattern]

/-- What is consistent for one engine is so for every engine that reads the patterns. -/
theorem consistent?_of_reads {other : Pattern.Engine} (consistent : schema.consistent? other = .ok ())
    (reads : ∀ regex ∈ schema.patterns, engine.reads regex = true) : schema.consistent? engine = .ok () := by
  rw [consistent?_eq_ok_iff_wellFormed] at consistent ⊢
  obtain ⟨⟨distinct, aliases, suits⟩, order⟩ := consistent
  refine ⟨⟨distinct, aliases, fun f declared c mem => ?_⟩, order⟩
  exact ⟨(suits f declared c mem).applies, fun regex pattern => reads regex (mem_patterns declared mem pattern)⟩

end Schema

/-- The engine reads the patterns of the built-in schemas. -/
def Pattern.Engine.ReadsBuiltin (engine : Pattern.Engine) : Prop :=
  ∀ t, ∀ regex ∈ (Schema.builtin t).patterns, engine.reads regex = true

theorem Pattern.Engine.readsBuiltin_common : Engine.common.ReadsBuiltin := by
  intro t
  cases t with
  | sales => decide +kernel
  | inventory => decide +kernel
  | expense => decide +kernel

theorem Schema.builtin_consistent {engine : Pattern.Engine} (reads : engine.ReadsBuiltin) (t : RecordType) :
    (builtin t).consistent? engine = .ok () := by
  have faultless : (builtin t).fault? .common = none := by
    cases t with
    | sales => decide +kernel
    | inventory => decide +kernel
    | expense => decide +kernel
  exact consistent?_of_reads (consistent?_eq_ok_iff.mpr faultless) (reads t)

end RecordGate
