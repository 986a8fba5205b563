import RecordGate.Proofs.Json.Arranging
import RecordGate.Proofs.Schema.Rereading
import RecordGate.Schema.Json

/-!
# Schemas are read back from their documents

The document of a schema leaves out what is empty or absent and writes decimals and dates as texts. Decoding it gives
the schema again, field for field and constraint for constraint (`Schema.toJson_reads_back`), from the document as it
was put together and from its text. Bounds keep their number and their scale; a zero loses its sign.
-/

namespace RecordGate

/-! ## Sameness of schemas -/

/-- The same condition. Bounds on numbers are the same when they are equal and have one scale. -/
def Condition.Same : Condition → Condition → Prop
  | .min bound exclusive, .min bound' exclusive' =>
    (bound.sameNumber bound' = true ∧ bound.scale = bound'.scale) ∧ exclusive = exclusive'
  | .max bound exclusive, .max bound' exclusive' =>
    (bound.sameNumber bound' = true ∧ bound.scale = bound'.scale) ∧ exclusive = exclusive'
  | c, d => c = d

structure Constraint.Same (c d : Constraint) : Prop where
  condition : c.condition.Same d.condition
  severity : c.severity = d.severity
  message : c.message = d.message

structure Field.Same (f g : Field) : Prop where
  name : f.name = g.name
  type : f.type = g.type
  required : f.required = g.required
  /-- Constraint for constraint, in one order. -/
  constraints : List.Forall₂ Constraint.Same f.constraints g.constraints

/-- The same schema, field for field in one order. -/
structure Schema.Same (s t : Schema) : Prop where
  recordType : s.recordType = t.recordType
  fields : List.Forall₂ Field.Same s.fields t.fields
  aliases : s.aliases = t.aliases

/-- The condition as it is read back: no bound is a negative zero. -/
def Condition.unsignedZeros : Condition → Condition
  | .min bound exclusive => .min bound.unsignedZero exclusive
  | .max bound exclusive => .max bound.unsignedZero exclusive
  | c => c

def Constraint.unsignedZeros (c : Constraint) : Constraint := { c with condition := c.condition.unsignedZeros }

def Field.unsignedZeros (f : Field) : Field := { f with constraints := f.constraints.map Constraint.unsignedZeros }

def Schema.unsignedZeros (s : Schema) : Schema := { s with fields := s.fields.map Field.unsignedZeros }

theorem Decimal.same_unsignedZero (d : Decimal) :
    d.sameNumber d.unsignedZero = true ∧ d.scale = d.unsignedZero.scale :=
  Value.same_number_iff.mpr ⟨d.signed_unsignedZero.symm, rfl⟩

theorem Condition.same_unsignedZeros (c : Condition) : c.Same c.unsignedZeros := by
  cases c with
  | min bound exclusive => exact ⟨bound.same_unsignedZero, rfl⟩
  | max bound exclusive => exact ⟨bound.same_unsignedZero, rfl⟩
  | maxLength | minLength | oneOf | pattern | notInFuture | notBefore => rfl

theorem Constraint.same_unsignedZeros (c : Constraint) : c.Same c.unsignedZeros :=
  ⟨c.condition.same_unsignedZeros, rfl, rfl⟩

theorem Field.same_unsignedZeros (f : Field) : f.Same f.unsignedZeros :=
  ⟨rfl, rfl, rfl, List.forall₂_map_right_iff.mpr (List.forall₂_same.mpr fun c _ => c.same_unsignedZeros)⟩

theorem Schema.same_unsignedZeros (s : Schema) : s.Same s.unsignedZeros :=
  ⟨rfl, List.forall₂_map_right_iff.mpr (List.forall₂_same.mpr fun f _ => f.same_unsignedZeros), rfl⟩

/-! ## Values of members -/

/-- A decimal is read back from its text. -/
theorem Decimal.ofJson?_toString (d : Decimal) : Decimal.ofJson? (.str (toString d)) = some d.unsignedZero := by
  have text : (toString d).toList = d.chars := String.toList_ofList
  rw [Decimal.ofJson?, text, d.ofPlain?_chars, Option.some_or]

/-- A date is read back from its text. -/
theorem Date.ofJson?_toString (d : Date) : Date.ofJson? (.str (toString d)) = some d := by
  obtain ⟨-, -, -, month, -, day⟩ := d.real
  have days : Date.daysInMonth d.year d.month ≤ 31 := by
    unfold Date.daysInMonth
    split_ifs <;> omega
  have text : (toString d).toList = d.chars := String.toList_ofList
  have hyphen (cs : List Char) : ('-' :: cs).dropWhile Text.isBlank = '-' :: cs := rfl
  have last : Calendar.shortNumber? (Date.padded 2 d.day) = some (d.day, []) := by
    have read : Calendar.shortNumber? (Date.padded 2 d.day ++ []) = some (d.day, []) :=
      Calendar.shortNumber?_padded (by omega)
    rwa [List.append_nil] at read
  simp only [Date.ofJson?, Json.string?, Date.ofDocument?, text, Date.chars, List.append_assoc, List.cons_append,
    Calendar.year?_append, hyphen, Calendar.mark?, beq_self_eq_true, if_true,
    Calendar.shortNumber?_padded (show d.month < 100 by omega), last, Option.bind_eq_bind, Option.bind_some,
    List.dropWhile_nil, List.isEmpty_nil, Date.ofParts?_parts]

theorem RecordType.ofJson?_key (t : RecordType) : RecordType.ofJson? (.str t.key) = some t := by
  cases t <;> rfl

theorem Severity.ofJson?_name (s : Severity) : Severity.ofJson? (.str s.name) = some s := by
  cases s <;> rfl

theorem FieldType.variant?_name (t : FieldType) : Json.variant? FieldType.ofName? (.str t.name) = some t := by
  cases t <;> rfl

/-! ## Decoding -/

section Decoding

open Json (Arranges)

variable {arrange : Json → Json}

/-- A condition is read from its members, whatever stands beside them. -/
theorem Condition.ofJson?_toMembers (h : Arranges arrange) (c : Condition) {j : Json}
    (holds : ∀ m ∈ c.toMembers, j.get? m.1 = some (arrange m.2)) : Condition.ofJson? j = some c.unsignedZeros := by
  obtain ⟨kind, members⟩ := List.forall_mem_cons.mp holds
  replace kind : j.required? "kind" Json.string? = some c.name := by
    rw [Json.required?_of_found kind, h.string?_str]
  cases c with
  | maxLength most =>
    rw [List.forall_mem_singleton] at members
    simp [ofJson?, kind, name, Json.required?_of_found members, h.nat?_ofNat, unsignedZeros]
  | minLength least =>
    rw [List.forall_mem_singleton] at members
    simp [ofJson?, kind, name, Json.required?_of_found members, h.nat?_ofNat, unsignedZeros]
  | min bound exclusive =>
    rw [List.forall_mem_cons, List.forall_mem_singleton] at members
    obtain ⟨value, flag⟩ := members
    simp [ofJson?, kind, name, Json.required?_of_found value, h.str, bound.ofJson?_toString,
      Json.defaulted?_of_found flag, h.bool?_bool, unsignedZeros]
  | max bound exclusive =>
    rw [List.forall_mem_cons, List.forall_mem_singleton] at members
    obtain ⟨value, flag⟩ := members
    simp [ofJson?, kind, name, Json.required?_of_found value, h.str, bound.ofJson?_toString,
      Json.defaulted?_of_found flag, h.bool?_bool, unsignedZeros]
  | oneOf values =>
    rw [List.forall_mem_singleton] at members
    have listed : Json.list? Json.string? (arrange (.arr (values.map .str))) = some (values.map id) :=
      h.list?_map fun s _ => h.string?_str s
    simp [ofJson?, kind, name, Json.required?_of_found members, listed, unsignedZeros]
  | pattern regex =>
    rw [List.forall_mem_singleton] at members
    simp [ofJson?, kind, name, Json.required?_of_found members, h.string?_str, unsignedZeros]
  | notInFuture => simp [ofJson?, kind, name, unsignedZeros]
  | notBefore bound =>
    rw [List.forall_mem_singleton] at members
    simp [ofJson?, kind, name, Json.required?_of_found members, h.str, bound.ofJson?_toString, unsignedZeros]

/-- No member of a condition has the name of another, or of what a constraint adds to it. -/
theorem Condition.nodup_names (c : Condition) : (c.toMembers.map Prod.fst ++ ["severity", "message"]).Nodup := by
  cases c <;> simp [toMembers]

theorem Constraint.nodup_names (c : Constraint) : (c.toJson.entries.map Prod.fst).Nodup := by
  rw [Constraint.toJson, Json.entries, List.map_append]
  refine c.condition.nodup_names.sublist ((List.Sublist.refl _).append (List.Sublist.cons_cons _ ?_))
  cases c.message with
  | none => exact List.nil_sublist _
  | some text => exact .refl _

theorem Field.nodup_names (f : Field) : (f.toJson.entries.map Prod.fst).Nodup := by
  rw [Field.toJson, Json.entries]
  split <;> simp

theorem Schema.nodup_names (s : Schema) : (s.toJson.entries.map Prod.fst).Nodup := by
  rw [Schema.toJson, Json.entries]
  split <;> simp

theorem Constraint.ofJson?_arranged (h : Arranges arrange) (c : Constraint) :
    Constraint.ofJson? (arrange c.toJson) = some c.unsignedZeros := by
  have holds {m : String × Json} (mem : m ∈ c.toJson.entries) : (arrange c.toJson).get? m.1 = some (arrange m.2) :=
    h.get?_of_mem c.nodup_names mem
  have condition : Condition.ofJson? (arrange c.toJson) = some c.condition.unsignedZeros :=
    c.condition.ofJson?_toMembers h fun m mem => holds (List.mem_append_left _ mem)
  have severity : (arrange c.toJson).defaulted? "severity" .critical Severity.ofJson? = some c.severity := by
    have found := holds (List.mem_append_right _ List.mem_cons_self)
    rw [Json.defaulted?_of_found found, h.str, c.severity.ofJson?_name]
  have message : (arrange c.toJson).optional? "message" Json.string? = some c.message := by
    cases form : c.message with
    | none =>
      refine Json.defaulted?_of_absent (h.get?_of_notMem c.nodup_names ?_)
      have apart := (List.nodup_append.mp c.condition.nodup_names).2.2
      rw [Constraint.toJson, Json.entries, form, List.map_append, List.mem_append]
      rintro (inside | added)
      · exact apart _ inside "message" (by decide) rfl
      · simp [Json.member?] at added
    | some text =>
      have found := holds (m := ("message", .str text)) (by simp [Constraint.toJson, Json.entries, form, Json.member?])
      rw [Json.optional?, Json.defaulted?_of_found found, h.str]
      rfl
  simp only [Constraint.ofJson?, condition, severity, message, Option.bind_eq_bind, Option.bind_some]
  rfl

theorem Field.ofJson?_arranged (h : Arranges arrange) (f : Field) :
    Field.ofJson? (arrange f.toJson) = some f.unsignedZeros := by
  have holds {m : String × Json} (mem : m ∈ f.toJson.entries) : (arrange f.toJson).get? m.1 = some (arrange m.2) :=
    h.get?_of_mem f.nodup_names mem
  have object : (arrange f.toJson).asObject? ["name", "field_type", "required", "constraints"] =
      some (arrange f.toJson) := h.asObject?_obj f.nodup_names _
  have name : (arrange f.toJson).required? "name" Json.string? = some f.name := by
    have found := holds (m := ("name", .str f.name)) (by simp [Field.toJson, Json.entries])
    rw [Json.required?_of_found found, h.string?_str]
  have type : (arrange f.toJson).required? "field_type" (Json.variant? FieldType.ofName?) = some f.type := by
    have found := holds (m := ("field_type", .str f.type.name)) (by simp [Field.toJson, Json.entries])
    rw [Json.required?_of_found found, h.str, f.type.variant?_name]
  have required : (arrange f.toJson).required? "required" Json.bool? = some f.required := by
    have found := holds (m := ("required", .bool f.required)) (by simp [Field.toJson, Json.entries])
    rw [Json.required?_of_found found, h.bool?_bool]
  have constraints : (arrange f.toJson).defaulted? "constraints" [] (Json.list? Constraint.ofJson?) =
      some (f.constraints.map Constraint.unsignedZeros) := by
    by_cases none : f.constraints = []
    · rw [none]
      exact Json.defaulted?_of_absent (h.get?_of_notMem f.nodup_names (by simp [Field.toJson, Json.entries, none]))
    · have found := holds (m := ("constraints", .arr (f.constraints.map Constraint.toJson)))
        (by simp [Field.toJson, Json.entries, none])
      rw [Json.defaulted?_of_found found]
      exact h.list?_map fun c _ => c.ofJson?_arranged h
  simp only [Field.ofJson?, object, name, type, required, constraints, Option.bind_eq_bind, Option.bind_some]
  rfl

/-- A record of texts is read from its entries. -/
theorem Record.ofJson?_arranged (h : Arranges arrange) (r : Record String) :
    Json.record? Json.string? (arrange (.obj (r.entries.map fun e => (e.1, .str e.2)))) = some r := by
  have ascending : (r.entries.map fun e => (e.1, Json.str e.2)).Pairwise fun a b => a.1 < b.1 :=
    List.pairwise_map.mpr r.ascending
  have entries : (r.entries.mapM fun e => (Json.string? (arrange (.str e.2))).map (e.1, ·)) =
      some (r.entries.map id) :=
    mapM_eq_pure fun e _ => by rw [h.string?_str]; rfl
  rw [h.ascending _ ascending, List.map_map, Json.record?, List.mapM_map]
  refine (congrArg _ entries).trans ?_
  rw [List.map_id, Option.map_some, Record.ofList_entries]

/-- **A document is decoded to its schema**, however its members are arranged. -/
theorem Schema.ofJson?_arranged (h : Arranges arrange) (s : Schema) :
    Schema.ofJson? (arrange s.toJson) = some s.unsignedZeros := by
  have holds {m : String × Json} (mem : m ∈ s.toJson.entries) : (arrange s.toJson).get? m.1 = some (arrange m.2) :=
    h.get?_of_mem s.nodup_names mem
  have object : (arrange s.toJson).asObject? ["record_type", "fields", "aliases"] = some (arrange s.toJson) :=
    h.asObject?_obj s.nodup_names _
  have recordType : (arrange s.toJson).required? "record_type" RecordType.ofJson? = some s.recordType := by
    have found := holds (m := ("record_type", .str s.recordType.key)) (by simp [Schema.toJson, Json.entries])
    rw [Json.required?_of_found found, h.str, s.recordType.ofJson?_key]
  have fields : (arrange s.toJson).required? "fields" (Json.list? Field.ofJson?) =
      some (s.fields.map Field.unsignedZeros) := by
    have found := holds (m := ("fields", .arr (s.fields.map Field.toJson))) (by simp [Schema.toJson, Json.entries])
    rw [Json.required?_of_found found]
    exact h.list?_map fun f _ => f.ofJson?_arranged h
  have aliases : (arrange s.toJson).defaulted? "aliases" .empty (Json.record? Json.string?) = some s.aliases := by
    cases none : s.aliases.isEmpty with
    | true =>
      have same : s.aliases = .empty := by
        rw [← Record.ofList_entries s.aliases, List.isEmpty_iff.mp none]
        rfl
      rw [same]
      exact Json.defaulted?_of_absent (h.get?_of_notMem s.nodup_names (by simp [Schema.toJson, Json.entries, none]))
    | false =>
      have found := holds (m := ("aliases", .obj (s.aliases.entries.map fun e => (e.1, .str e.2))))
        (by simp [Schema.toJson, Json.entries, none])
      rw [Json.defaulted?_of_found found]
      exact Record.ofJson?_arranged h s.aliases
  simp only [Schema.ofJson?, object, recordType, fields, aliases, Option.bind_eq_bind, Option.bind_some]
  rfl

end Decoding

/-! ## Texts of documents -/

section Texts

open Json (Legible)

/-- The lengths of a condition fit 64 bits. -/
def Condition.Fits : Condition → Prop
  | .maxLength length | .minLength length => length < Nat.pow 2 64
  | _ => True

instance : (c : Condition) → Decidable c.Fits
  | .maxLength _ => Nat.decLt _ _
  | .minLength _ => Nat.decLt _ _
  | .min .. | .max .. | .oneOf _ | .pattern _ | .notInFuture | .notBefore _ => .isTrue trivial

/-- Every length in a schema fits 64 bits: a larger number is not read back as a whole number. -/
def Schema.Fits (s : Schema) : Prop := ∀ f ∈ s.fields, ∀ c ∈ f.constraints, c.condition.Fits

instance (s : Schema) : Decidable s.Fits := inferInstanceAs (Decidable (∀ f ∈ s.fields, ∀ c ∈ f.constraints, _))

variable {depth : Nat}

theorem Condition.legible_toMembers {c : Condition} (fits : c.Fits) :
    ∀ m ∈ c.toMembers, Legible (depth + 1) m.2 := by
  refine List.forall_mem_cons.mpr ⟨.str _, ?_⟩
  cases c with
  | maxLength | minLength => exact List.forall_mem_singleton.mpr (Json.legible_ofNat fits)
  | min | max => exact List.forall_mem_cons.mpr ⟨.str _, List.forall_mem_singleton.mpr (.bool _)⟩
  | oneOf values =>
    refine List.forall_mem_singleton.mpr (.arr fun j mem => ?_)
    obtain ⟨s, -, rfl⟩ := List.mem_map.mp mem
    exact .str s
  | pattern | notBefore => exact List.forall_mem_singleton.mpr (.str _)
  | notInFuture => exact nofun

theorem Constraint.legible_toJson {c : Constraint} (fits : c.condition.Fits) : Legible (depth + 2) c.toJson := by
  refine .obj (List.forall_mem_append.mpr ⟨Condition.legible_toMembers fits, List.forall_mem_cons.mpr ⟨.str _, ?_⟩⟩)
  cases c.message with
  | none => exact nofun
  | some text => exact List.forall_mem_singleton.mpr (.str text)

theorem Field.legible_toJson {f : Field} (fits : ∀ c ∈ f.constraints, c.condition.Fits) :
    Legible (depth + 4) f.toJson := by
  refine .obj (List.forall_mem_append.mpr ⟨?_, ?_⟩)
  · exact List.forall_mem_cons.mpr ⟨.str _, List.forall_mem_cons.mpr ⟨.str _, List.forall_mem_singleton.mpr (.bool _)⟩⟩
  · split
    · exact nofun
    · refine List.forall_mem_singleton.mpr (.arr fun j mem => ?_)
      obtain ⟨c, inside, rfl⟩ := List.mem_map.mp mem
      exact Constraint.legible_toJson (fits c inside)

theorem Schema.legible_toJson {s : Schema} (fits : s.Fits) : Legible (depth + 6) s.toJson := by
  refine .obj (List.forall_mem_append.mpr ⟨List.forall_mem_cons.mpr ⟨.str _, List.forall_mem_singleton.mpr ?_⟩, ?_⟩)
  · refine .arr fun j mem => ?_
    obtain ⟨f, inside, rfl⟩ := List.mem_map.mp mem
    exact Field.legible_toJson (fits f inside)
  · split
    · exact nofun
    · refine List.forall_mem_singleton.mpr (.obj fun m mem => ?_)
      obtain ⟨e, -, rfl⟩ := List.mem_map.mp mem
      exact .str e.2

/-- **A schema is read back from its document**, as it was put together and from its text. -/
theorem Schema.toJson_reads_back {s : Schema} (fits : s.Fits) :
    ∃ t, s.Same t ∧ Schema.ofJson? s.toJson = some t ∧
      ∃ j, Json.ofString s.toJson.compact = .ok j ∧ Schema.ofJson? j = some t := by
  have legible : Legible (121 + 6) s.toJson := Schema.legible_toJson fits
  refine ⟨s.unsignedZeros, s.same_unsignedZeros, ?_, s.toJson.sorted, ?_, ?_⟩
  · exact s.ofJson?_arranged Json.arranges_id
  · exact Json.ofString_compact legible
  · exact s.ofJson?_arranged Json.arranges_sorted

/-- A schema with a negative zero for a bound, a field without constraints, texts with quotes, and an alias. -/
theorem Schema.toJson_reads_back_amount :
    let zero : Decimal := ⟨true, 0, 2, by decide, by decide⟩
    let s : Schema := ⟨.expense, [⟨"amount", .decimal, true, [⟨.min zero true, .warning, none⟩]⟩,
        ⟨"note", .text, false, []⟩,
        ⟨"code", .text, false, [⟨.oneOf ["a", "\""], .info, some "no \"code\""⟩, ⟨.maxLength 18, .critical, none⟩]⟩],
      .ofList [("cost", "amount")]⟩
    s.Fits ∧ ∃ t, s.Same t ∧ Schema.ofJson? s.toJson = some t ∧
      ∃ j, Json.ofString s.toJson.compact = .ok j ∧ Schema.ofJson? j = some t := by
  intro zero s
  have fits : s.Fits := by decide
  exact ⟨fits, Schema.toJson_reads_back fits⟩

end Texts

end RecordGate
