import RecordGate.Expr.Typing
import RecordGate.Proofs.Record
import RecordGate.Schema.Check

/-!
# The values of a checked row

On a consistent schema the check of a row gives every declared field a value, and the value is null or
of the kind that the field holds (`Schema.check_isOf`), so of the field's type in expressions
(`Schema.check_fits`), whatever the cells of the row are.
-/

namespace RecordGate

/-- The kind of the values that a field of the type holds. -/
def FieldType.kind : FieldType → Value.Kind
  | .text => .text
  | .integer | .decimal => .number
  | .boolean => .boolean
  | .date => .date
  | .timestamp => .timestamp

/-- The value is null or of the kind that a field of the type holds. -/
def Value.IsOf (v : Value) (type : FieldType) : Prop := v = .null ∨ v.kind = type.kind

/-- The value is null or of the given type. -/
def Value.Fits (v : Value) (type : ExprType) : Prop := v = .null ∨ v.exprType = type

theorem Value.IsOf.fits {v : Value} {type : FieldType} (h : v.IsOf type) : v.Fits type.exprType := by
  refine h.imp_right fun kind => ?_
  cases v <;> cases type <;> first | rfl | cases kind

/-- The row has for every declared field null or a value of the field's type. -/
def Record.Fits (row : Record Value) (schema : Schema) : Prop :=
  ∀ f ∈ schema.fields, ∃ v, row.get? f.name = some v ∧ v.Fits f.type.exprType

/-! ## The value of one field -/

theorem kind_of_integer? {d : Decimal} {v : Value} (h : integer? d = some v) : v.kind = .number := by
  unfold integer? at h
  split at h
  · cases h
    rfl
  · cases h

/-- What is read by a reader of the type's own notation is of the type. -/
theorem isOf_of_map {α : Type} {o : Option α} {make : α → Value} {type : FieldType} {v : Value}
    (made : ∀ a, (make a).kind = type.kind) (h : o.map make = some v) : v.IsOf type := by
  obtain ⟨a, -, rfl⟩ := Option.map_eq_some_iff.mp h
  exact .inr (made a)

theorem isOf_of_coerce? {type : FieldType} {cell : Cell} {v : Value} (h : coerce? type cell = some v) :
    v.IsOf type := by
  revert h
  fun_cases coerce? type cell with
  | case1 =>
    intro h
    cases h
    exact .inl rfl
  | case2 | case3 | case4 | case7 | case9 | case10 | case11 =>
    intro h
    cases h
    exact .inr rfl
  | case5 => exact fun h => .inr (kind_of_integer? h)
  | case6 =>
    intro h
    obtain ⟨d, -, h⟩ := Option.bind_eq_some_iff.mp h
    exact .inr (kind_of_integer? h)
  | case8 | case13 | case14 | case15 => exact isOf_of_map fun _ => rfl
  | case12 | case16 => nofun

theorem coerce_eq_ok {type : FieldType} {cell : Cell} {v : Value} :
    coerce type cell = .ok v ↔ coerce? type cell = some v := by
  rw [coerce]
  cases coerce? type cell with
  | none => exact ⟨nofun, nofun⟩
  | some w => rw [Except.ok.injEq, Option.some.injEq]

theorem Field.check_isOf (f : Field) (engine : Pattern.Engine) (row : Nat) (asOf : Date) (cell : Option Cell) :
    (f.check engine row asOf cell).1.IsOf f.type := by
  unfold Field.check
  split
  · exact .inl rfl
  · next cell _ =>
    split
    · next v hv => exact isOf_of_coerce? (coerce_eq_ok.mp hv)
    · exact .inl rfl

/-! ## The values of all fields -/

namespace Schema

variable {engine : Pattern.Engine}

theorem firstRepeated_eq_none_iff {seen names : List String} :
    firstRepeated seen names = none ↔ names.Nodup ∧ ∀ n ∈ names, n ∉ seen := by
  induction names generalizing seen with
  | nil => exact ⟨fun _ => ⟨List.nodup_nil, nofun⟩, fun _ => rfl⟩
  | cons n rest ih =>
    rw [firstRepeated, List.nodup_cons, List.forall_mem_cons]
    split
    · next repeated =>
      exact ⟨nofun, fun ⟨_, unseen, _⟩ => absurd (List.contains_iff_mem.mp repeated) unseen⟩
    · next fresh =>
      have unseen : n ∉ seen := fun mem => fresh (List.contains_iff_mem.mpr mem)
      rw [ih]
      constructor
      · rintro ⟨distinct, later⟩
        exact ⟨⟨fun mem => later n mem List.mem_cons_self, distinct⟩, unseen,
          fun m mem => List.not_mem_of_not_mem_cons (later m mem)⟩
      · rintro ⟨⟨once, distinct⟩, -, later⟩
        refine ⟨distinct, fun m mem seen => ?_⟩
        rcases List.mem_cons.mp seen with rfl | seen
        · exact once mem
        · exact later m mem seen

/-- A schema has no fault when its names, its aliases and its fields have none. -/
theorem fault?_eq_none_iff {schema : Schema} : schema.fault? engine = none ↔
    schema.fieldNames.Nodup ∧ (∀ e ∈ schema.aliases.entries, e.2 ∈ schema.fieldNames) ∧
      ∀ f ∈ schema.fields, fieldFault? engine schema.recordType f = none := by
  have names : firstRepeated [] schema.fieldNames = none ↔ schema.fieldNames.Nodup :=
    firstRepeated_eq_none_iff.trans (and_iff_left fun _ _ => List.not_mem_nil)
  have aliases : (schema.aliases.entries.find? fun e => !schema.fieldNames.contains e.2) = none ↔
      ∀ e ∈ schema.aliases.entries, e.2 ∈ schema.fieldNames := by
    simp only [List.find?_eq_none, Bool.not_eq_true', Bool.not_eq_false, List.contains_iff_mem]
  rw [← names, ← aliases, ← List.findSome?_eq_none_iff, fault?]
  cases firstRepeated [] schema.fieldNames with
  | some n => simp
  | none => cases schema.aliases.entries.find? fun e => !schema.fieldNames.contains e.2 <;> simp

theorem consistent?_eq_ok_iff {schema : Schema} : schema.consistent? engine = .ok () ↔ schema.fault? engine = none := by
  rw [consistent?]
  cases schema.fault? engine <;> simp

theorem nodup_of_consistent {schema : Schema} (h : schema.consistent? engine = .ok ()) : schema.fieldNames.Nodup :=
  (fault?_eq_none_iff.mp (consistent?_eq_ok_iff.mp h)).1

theorem check_values (schema : Schema) (engine : Pattern.Engine) (row : RawRow) (asOf : Date) :
    (schema.check engine row asOf).values = schema.fields.foldl (fun values f =>
      values.set f.name (f.check engine row.index asOf ((schema.resolve row).get? f.name)).1) .empty := by
  rw [check]
  exact (List.foldl_hom RowCheck.values fun _ _ => rfl).symm

/-- A checked row has for every declared field a value of the field. -/
theorem check_isOf {schema : Schema} (h : schema.consistent? engine = .ok ()) (row : RawRow) (asOf : Date) :
    ∀ f ∈ schema.fields, ∃ v, (schema.check engine row asOf).values.get? f.name = some v ∧ v.IsOf f.type := by
  intro f hf
  refine ⟨_, ?_, f.check_isOf engine row.index asOf ((schema.resolve row).get? f.name)⟩
  rw [check_values]
  exact Record.get?_fill (nodup_of_consistent h) hf

/-- **The values of a checked row fit its schema.** -/
theorem check_fits {schema : Schema} (h : schema.consistent? engine = .ok ()) (row : RawRow) (asOf : Date) :
    (schema.check engine row asOf).values.Fits schema := by
  intro f hf
  obtain ⟨v, hv, isOf⟩ := check_isOf h row asOf f hf
  exact ⟨v, hv, isOf.fits⟩

end Schema

end RecordGate
