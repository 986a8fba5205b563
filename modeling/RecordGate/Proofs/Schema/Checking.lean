import Mathlib.Data.List.Forall2
import RecordGate.Pattern.Reader
import RecordGate.Proofs.Schema.Conditions
import RecordGate.Proofs.Schema.Rereading

/-!
# What the check of a row reports

`Field.CallsFor` says, apart from the check, which value and which errors the cell of a field calls for: a missing
cell, a cell that cannot be read, and a value with one error for each condition that it does not satisfy. The check of
one field reports just that (`Field.check_callsFor`).

Main statement: the check of a row has a value for each declared field and no other, each null or of the type of the
field, and reports field by field in the order of declaration (`Schema.check_accountsFor`).
-/

namespace RecordGate

/-! ## Values of the declared type -/

/-- The value is null or of the type; what a field of whole numbers holds is a whole number. -/
structure Value.IsDeclared (v : Value) (type : FieldType) : Prop where
  isOf : v.IsOf type
  whole : type = .integer → ∀ d, v = .number d → ∃ n : ℤ, d.toRat = n

theorem Decimal.toRat_of_scale {d : Decimal} (h : d.scale = 0) : d.toRat = d.signed := by
  rw [toRat, h, pow_zero, div_one]

theorem whole_of_integer? {d e : Decimal} (h : integer? d = some (.number e)) : ∃ n : ℤ, e.toRat = n := by
  unfold integer? at h
  split at h
  · cases h
    exact ⟨_, Decimal.toRat_of_scale rfl⟩
  · cases h

theorem whole_of_coerce? {cell : Cell} {d : Decimal} (h : coerce? .integer cell = some (.number d)) :
    ∃ n : ℤ, d.toRat = n := by
  cases cell with
  | null | bool => cases h
  | number e => exact whole_of_integer? h
  | text s =>
    obtain ⟨e, -, read⟩ := Option.bind_eq_some_iff.mp h
    exact whole_of_integer? read

theorem FieldType.kind_ne_null (type : FieldType) : type.kind ≠ .null := by
  cases type <;> decide

theorem isDeclared_null (type : FieldType) : Value.IsDeclared .null type :=
  ⟨.inl rfl, fun _ _ same => nomatch same⟩

theorem isDeclared_of_coerce? {type : FieldType} {cell : Cell} {v : Value} (h : coerce? type cell = some v) :
    v.IsDeclared type := by
  refine ⟨isOf_of_coerce? h, ?_⟩
  rintro rfl d rfl
  exact whole_of_coerce? h

/-- What is read from a cell that is not empty is not null. -/
theorem kind_of_coerce? {type : FieldType} {cell : Cell} {v : Value} (h : coerce? type cell = some v)
    (filled : cell.isEmpty = false) : v.kind = type.kind := by
  rcases isOf_of_coerce? h with null | kind
  · subst null
    exact absurd (rereads_of_coerce? h filled).1 (by decide)
  · exact kind

/-! ## Reports -/

/-- The error that stands for a violated constraint. -/
def Constraint.failure (c : Constraint) (row : Nat) (field : String) : FieldError :=
  ⟨row, field, c.condition.errorCode, c.severity, c.message.getD (c.condition.complaint field)⟩

/-- Errors for constraints in their order: one for each that the value violates, and none for one that it meets. -/
inductive Value.CallsFor (engine : Pattern.Engine) (v : Value) (row : Nat) (field : String) (asOf : Date) :
    List Constraint → List FieldError → Prop where
  | nil : CallsFor engine v row field asOf [] []
  | met {c : Constraint} {cs : List Constraint} {es : List FieldError} (holds : c.condition.Met engine asOf v)
      (rest : CallsFor engine v row field asOf cs es) : CallsFor engine v row field asOf (c :: cs) es
  | violated {c : Constraint} {cs : List Constraint} {es : List FieldError} (fails : ¬c.condition.Met engine asOf v)
      (rest : CallsFor engine v row field asOf cs es) :
      CallsFor engine v row field asOf (c :: cs) (c.failure row field :: es)

section Constraints

variable {engine : Pattern.Engine} {v : Value} {field : String}

theorem Value.callsFor_filterMap {type : FieldType} (kind : v.kind = type.kind) (row : Nat) (field : String)
    (asOf : Date) {cs : List Constraint} (suits : ∀ c ∈ cs, c.condition.Suits engine type) :
    CallsFor engine v row field asOf cs (cs.filterMap (·.error? engine row field asOf v)) := by
  induction cs with
  | nil => exact .nil
  | cons c cs ih =>
    obtain ⟨first, others⟩ := List.forall_mem_cons.mp suits
    have decides : c.condition.brokenBy engine asOf v = true ↔ ¬c.condition.Met engine asOf v :=
      Condition.brokenBy_iff first kind
    cases broken : c.condition.brokenBy engine asOf v with
    | true =>
      have reported : c.error? engine row field asOf v = some (c.failure row field) := if_pos broken
      rw [List.filterMap_cons, reported]
      exact .violated (decides.mp broken) (ih others)
    | false =>
      have passed : c.error? engine row field asOf v = none := if_neg (Bool.eq_false_iff.mp broken)
      rw [List.filterMap_cons, passed]
      refine .met ?_ (ih others)
      by_contra fails
      exact Bool.false_ne_true (broken.symm.trans (decides.mpr fails))

theorem Value.CallsFor.exists_failure {row : Nat} {asOf : Date} {cs : List Constraint} {es : List FieldError}
    (h : CallsFor engine v row field asOf cs es) {e : FieldError} (mem : e ∈ es) :
    ∃ c ∈ cs, e = c.failure row field := by
  induction h with
  | nil => cases mem
  | met _ _ ih =>
    obtain ⟨c, inside, same⟩ := ih mem
    exact ⟨c, List.mem_cons_of_mem _ inside, same⟩
  | @violated c _ _ _ _ ih =>
    rcases List.mem_cons.mp mem with rfl | mem
    · exact ⟨c, List.mem_cons_self, rfl⟩
    · obtain ⟨d, inside, same⟩ := ih mem
      exact ⟨d, List.mem_cons_of_mem _ inside, same⟩

end Constraints

/-- The value and the errors that a field calls for, given the cell that was found for it. -/
inductive Field.CallsFor (engine : Pattern.Engine) (f : Field) (row : Nat) (asOf : Date) :
    Option Cell → Value → List FieldError → Prop where
  | required {cell : Option Cell} (blank : ∀ c ∈ cell, c.isEmpty = true) (required : f.required = true) :
      CallsFor engine f row asOf cell .null [⟨row, f.name, .required, .critical, s!"field '{f.name}' is required"⟩]
  | optional {cell : Option Cell} (blank : ∀ c ∈ cell, c.isEmpty = true) (optional : f.required = false) :
      CallsFor engine f row asOf cell .null []
  | mismatch {c : Cell} (filled : c.isEmpty = false) (unread : coerce? f.type c = none) :
      CallsFor engine f row asOf (some c) .null
        [⟨row, f.name, .typeMismatch, .critical, s!"invalid {f.type.name} '{c.display}'"⟩]
  | value {c : Cell} {v : Value} {es : List FieldError} (filled : c.isEmpty = false) (read : coerce? f.type c = some v)
      (constraints : Value.CallsFor engine v row f.name asOf f.constraints es) :
      CallsFor engine f row asOf (some c) v es

namespace Field

variable {engine : Pattern.Engine} {f : Field} {row : Nat} {asOf : Date} {cell : Option Cell} {v : Value}
  {es : List FieldError}

/-- **The check of a field reports what the field calls for.** -/
theorem check_callsFor (suits : ∀ c ∈ f.constraints, c.condition.Suits engine f.type) (row : Nat) (asOf : Date)
    (cell : Option Cell) :
    CallsFor engine f row asOf cell (f.check engine row asOf cell).1 (f.check engine row asOf cell).2 := by
  cases found : cell.filter (!·.isEmpty) with
  | none =>
    rw [check_of_empty row found]
    have blank : ∀ c ∈ cell, c.isEmpty = true := by
      rw [Option.filter_eq_none_iff] at found
      intro c mem
      simpa using found c mem
    cases required : f.required with
    | true => exact .required blank required
    | false => exact .optional blank required
  | some c =>
    obtain ⟨rfl, filled⟩ := Option.filter_eq_some_iff.mp found
    have filled : c.isEmpty = false := by simpa using filled
    cases read : coerce? f.type c with
    | some v =>
      rw [check_of_value row found read]
      exact .value filled read (Value.callsFor_filterMap (kind_of_coerce? read filled) row f.name asOf suits)
    | none =>
      have null : (f.check engine row asOf (some c)).1 = .null := by
        rw [check, found]
        simp only [coerce, read]
      rw [null, check_of_mismatch row found read]
      exact .mismatch filled read

/-- A field that calls for no critical error has a value of its type, if it is required. -/
theorem CallsFor.filled (h : CallsFor engine f row asOf cell v es) (clean : ∀ e ∈ es, e.severity ≠ .critical)
    (required : f.required = true) : v ≠ .null ∧ v.kind = f.type.kind := by
  cases h with
  | required => exact absurd rfl (clean _ List.mem_cons_self)
  | optional _ optional => rw [required] at optional; cases optional
  | mismatch => exact absurd rfl (clean _ List.mem_cons_self)
  | value filled read =>
    have kind := kind_of_coerce? read filled
    refine ⟨?_, kind⟩
    rintro rfl
    exact absurd kind.symm f.type.kind_ne_null

/-- The errors of a field name the field, and say that it is missing only where its cell is. -/
theorem CallsFor.about (h : CallsFor engine f row asOf cell v es) {e : FieldError} (mem : e ∈ es) :
    e.field = f.name ∧ (e.code = .required → ∀ c ∈ cell, c.isEmpty = true) := by
  cases h with
  | required blank =>
    rw [List.mem_singleton.mp mem]
    exact ⟨rfl, fun _ => blank⟩
  | optional => cases mem
  | mismatch =>
    rw [List.mem_singleton.mp mem]
    exact ⟨rfl, nofun⟩
  | value _ _ constraints =>
    obtain ⟨c, -, rfl⟩ := constraints.exists_failure mem
    refine ⟨rfl, fun required => ?_⟩
    have code : c.condition.errorCode = .required := required
    cases form : c.condition <;> rw [form] at code <;> cases code

theorem CallsFor.isDeclared (h : CallsFor engine f row asOf cell v es) : v.IsDeclared f.type := by
  cases h with
  | required | optional | mismatch => exact isDeclared_null f.type
  | value _ read => exact isDeclared_of_coerce? read

end Field

/-! ## Rows -/

namespace Schema

/-- The values and the errors that a row calls for under a schema. -/
structure AccountsFor (engine : Pattern.Engine) (schema : Schema) (row : RawRow) (asOf : Date) (c : RowCheck) :
    Prop where
  /-- The names of the values are those of the declared fields. -/
  names : ∀ name, name ∈ c.values.names ↔ name ∈ schema.fieldNames
  /-- Each value is null or of the type of its field. -/
  declared : ∀ f ∈ schema.fields, ∃ v, c.values.get? f.name = some v ∧ v.IsDeclared f.type
  /-- The errors are those that the fields call for, one field after the other in the order of declaration. -/
  reports : ∃ reports : List (List FieldError), c.errors = reports.flatten ∧
    List.Forall₂ (fun f es => ∃ v, c.values.get? f.name = some v ∧
      f.CallsFor engine row.index asOf ((schema.resolve row).get? f.name) v es) schema.fields reports
  /-- Without a critical error every required field has a value of its type. -/
  filled : (∀ e ∈ c.errors, e.severity ≠ .critical) → ∀ f ∈ schema.fields, f.required = true →
    ∃ v, c.values.get? f.name = some v ∧ v ≠ .null ∧ v.kind = f.type.kind

variable {engine : Pattern.Engine} {schema : Schema}

theorem mem_names_check_iff (row : RawRow) (asOf : Date) {name : String} (distinct : schema.fieldNames.Nodup) :
    name ∈ (schema.check engine row asOf).values.names ↔ name ∈ schema.fieldNames := by
  rw [Record.mem_names_iff]
  constructor
  · rintro ⟨v, found⟩
    by_contra undeclared
    rw [get?_values_of_undeclared row asOf undeclared] at found
    cases found
  · intro mem
    obtain ⟨f, declared, rfl⟩ := List.mem_map.mp mem
    exact ⟨_, get?_values distinct row asOf declared⟩

/--
**The check of a row is what the schema declares.** Under a consistent schema every row, on every processing date,
gets a value for each declared field and for no other name, null or of the type of the field. Its errors are, field by
field in the order of declaration: that a required field is missing, that the cell cannot be read, or for each
constraint in order an error of its severity where the value does not satisfy it.
-/
theorem check_accountsFor (consistent : schema.consistent? engine = .ok ()) (row : RawRow) (asOf : Date) :
    AccountsFor engine schema row asOf (schema.check engine row asOf) := by
  have distinct := nodup_of_consistent consistent
  have suits := suits_of_consistent consistent
  let cell (f : Field) : Option Cell := (schema.resolve row).get? f.name
  have callsFor (f : Field) (mem : f ∈ schema.fields) := f.check_callsFor (suits f mem) row.index asOf (cell f)
  have value (f : Field) (mem : f ∈ schema.fields) :
      (schema.check engine row asOf).values.get? f.name = some (f.check engine row.index asOf (cell f)).1 :=
    get?_values distinct row asOf mem
  refine ⟨fun _ => mem_names_check_iff row asOf distinct, fun f mem => ?_, ?_, fun clean f mem required => ?_⟩
  · exact ⟨_, value f mem, (callsFor f mem).isDeclared⟩
  · refine ⟨schema.fields.map fun f => (f.check engine row.index asOf (cell f)).2, ?_, ?_⟩
    · rw [check_errors, List.flatMap_def]
    · rw [List.forall₂_map_right_iff, List.forall₂_same]
      exact fun f mem => ⟨_, value f mem, callsFor f mem⟩
  · have own : ∀ e ∈ (f.check engine row.index asOf (cell f)).2, e.severity ≠ .critical := by
      intro e reported
      rw [check_errors] at clean
      exact clean e (List.mem_flatMap.mpr ⟨f, mem, reported⟩)
    exact ⟨_, value f mem, (callsFor f mem).filled own required⟩

/--
A quantity at an exclusive bound, a code that is too short and of another shape, a day that cannot be read, and a
missing note.
-/
theorem check_accountsFor_order :
    let engine : Pattern.Engine := .common
    let ten : Decimal := ⟨false, 10, 0, by decide, by decide⟩
    let schema : Schema := ⟨.sales, [
      ⟨"quantity", .integer, true, [⟨.min .zero true, .critical, none⟩, ⟨.max ten true, .warning, none⟩]⟩,
      ⟨"code", .text, true, [⟨.minLength 2, .info, some "short"⟩, ⟨.pattern "^A", .warning, none⟩]⟩,
      ⟨"day", .date, false, [⟨.notInFuture, .critical, none⟩]⟩, ⟨"note", .text, true, []⟩], .empty⟩
    let row : RawRow := ⟨4, .ofList [("Quantity", .text "10.0"), ("code", .text " B "), ("day", .bool true)]⟩
    schema.consistent? engine = .ok () ∧
      (schema.check engine row .epoch).errors.map (fun e => (e.field, e.code, e.severity)) =
        [("quantity", .aboveMaximum, .warning), ("code", .minLength, .info), ("code", .patternMismatch, .warning),
          ("day", .typeMismatch, .critical), ("note", .required, .critical)] ∧
      AccountsFor engine schema row .epoch (schema.check engine row .epoch) := by
  intro engine ten schema row
  have consistent : schema.consistent? engine = .ok () := rfl
  exact ⟨consistent, by decide +kernel, check_accountsFor consistent row .epoch⟩

end Schema

end RecordGate
