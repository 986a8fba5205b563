import RecordGate.Proofs.Calendar.Taking
import RecordGate.Proofs.Expr.Equality
import RecordGate.Proofs.Rule.Soundness
import RecordGate.Proofs.Schema.Rereading

/-!
# Date literals

A text that a rule compares with a date stands for the date or timestamp that the same text is in a row
(`Expr.temporal?_reads`), although rules and rows are read by rules of their own: what a literal may be, a cell may be
as well, and a date is compared as its midnight. The comparison may stand anywhere in the rule, since typing works part
by part (`Expr.typed_within`). A row whose cell is the text of the literal therefore satisfies `==`, `<=` and `>=`, and
fails `!=`, `<` and `>` (`Rule.date_literal_as_data`).
-/

namespace RecordGate.Expr

/-! ## Typing part by part -/

variable {schema : Schema} {part e : Expr} {op : BinaryOp} {pos : Nat}

/-- An operand stays as it is, unless it is a literal. -/
def Keeps (before after : Expr) : Prop := after = before ∨ ∃ v, before = .literal v

theorem Keeps.within {before after : Expr} (h : Keeps before after) (node : ∀ v, part ≠ .literal v)
    (inside : Within part before) : Within part after := by
  rcases h with rfl | ⟨v, rfl⟩
  · exact inside
  · cases inside
    exact absurd rfl (node v)

theorem keeps_asTemporal {e' : Expr} (h : asTemporal e pos = .ok e') : Keeps e e' := by
  unfold asTemporal at h
  split at h
  · exact .inr ⟨_, rfl⟩
  · cases h

theorem typedComparison_ok {l r : Typed} (h : typedComparison op l r pos = .ok e) :
    ∃ l' r', e = .binary op l' r' pos ∧ Keeps l.expr l' ∧ Keeps r.expr r' := by
  unfold typedComparison at h
  split at h
  · split at h
    · cases h
      exact ⟨_, _, rfl, .inl rfl, .inl rfl⟩
    · cases h
  split at h
  · obtain ⟨r', hr', rfl⟩ := map_eq_ok.mp h
    exact ⟨_, _, rfl, .inl rfl, keeps_asTemporal hr'⟩
  split at h
  · obtain ⟨l', hl', rfl⟩ := map_eq_ok.mp h
    exact ⟨_, _, rfl, keeps_asTemporal hl', .inl rfl⟩
  split at h
  · cases h
  split at h
  · cases h
  · cases h
    exact ⟨_, _, rfl, .inl rfl, .inl rfl⟩

theorem typed_binary {l r : Expr} {t : Typed} (h : typed schema (.binary op l r pos) = .ok t) :
    ∃ tl tr l' r', typed schema l = .ok tl ∧ typed schema r = .ok tr ∧ t.expr = .binary op l' r' pos ∧
      Keeps tl.expr l' ∧ Keeps tr.expr r' := by
  rw [typed] at h
  obtain ⟨tl, hl, h⟩ := bind_eq_ok.mp h
  obtain ⟨tr, hr, h⟩ := bind_eq_ok.mp h
  split at h
  · obtain ⟨e, he, h⟩ := bind_eq_ok.mp h
    cases h
    obtain ⟨l', r', same, keepsLeft, keepsRight⟩ := typedComparison_ok he
    exact ⟨tl, tr, l', r', hl, hr, same, keepsLeft, keepsRight⟩
  · obtain ⟨⟨⟩, -, h⟩ := bind_eq_ok.mp h
    obtain ⟨⟨⟩, -, h⟩ := bind_eq_ok.mp h
    cases h
    exact ⟨tl, tr, _, _, hl, hr, rfl, .inl rfl, .inl rfl⟩

/-- What is no literal becomes no literal. -/
theorem typed_node {t : Typed} (h : typed schema e = .ok t) (node : ∀ v, e ≠ .literal v) (v : Value) :
    t.expr ≠ .literal v := by
  cases e with
  | literal w => exact absurd rfl (node w)
  | field name pos =>
    rw [typed] at h
    split at h
    · cases h
      intro same
      cases same
    · cases h
  | unary op e pos =>
    rw [typed] at h
    obtain ⟨operand, -, h⟩ := bind_eq_ok.mp h
    obtain ⟨⟨⟩, -, h⟩ := bind_eq_ok.mp h
    cases h
    intro same
    cases same
  | binary op l r pos =>
    obtain ⟨-, -, l', r', -, -, rewritten, -, -⟩ := typed_binary h
    rw [rewritten]
    intro same
    cases same
  | call f args site pos =>
    rw [typed] at h
    obtain ⟨typedList, -, h⟩ := bind_eq_ok.mp h
    cases h
    intro same
    cases same

theorem typed_of_mem {f : Function} {args typedList : List Expr} (h : typedArgs schema f pos args = .ok typedList)
    (mem : e ∈ args) : ∃ t, typed schema e = .ok t ∧ t.expr ∈ typedList := by
  induction args generalizing typedList with
  | nil => cases mem
  | cons first rest ih =>
    obtain ⟨t, others, ht, hrest, rfl⟩ := typedArgs_cons_typed h
    rcases List.mem_cons.mp mem with rfl | mem
    · exact ⟨t, ht, List.mem_cons_self⟩
    · obtain ⟨u, hu, found⟩ := ih hrest mem
      exact ⟨u, hu, List.mem_cons_of_mem _ found⟩

/--
**Typing works part by part.** A part other than a literal is typed by itself, and what it becomes stands in what the
whole becomes.
-/
theorem typed_within {t : Typed} (inside : Within part e) (node : ∀ v, part ≠ .literal v) (h : typed schema e = .ok t) :
    ∃ u, typed schema part = .ok u ∧ Within u.expr t.expr := by
  induction inside generalizing t with
  | here => exact ⟨t, h, .here⟩
  | operand _ ih =>
    rw [typed] at h
    obtain ⟨operand, typedOperand, h⟩ := bind_eq_ok.mp h
    obtain ⟨⟨⟩, -, h⟩ := bind_eq_ok.mp h
    cases h
    obtain ⟨u, hu, inside⟩ := ih typedOperand
    exact ⟨u, hu, .operand inside⟩
  | left _ ih =>
    obtain ⟨tl, tr, l', r', hl, -, same, keeps, -⟩ := typed_binary h
    obtain ⟨u, hu, inside⟩ := ih hl
    exact ⟨u, hu, same ▸ .left (keeps.within (typed_node hu node) inside)⟩
  | right _ ih =>
    obtain ⟨tl, tr, l', r', -, hr, same, -, keeps⟩ := typed_binary h
    obtain ⟨u, hu, inside⟩ := ih hr
    exact ⟨u, hu, same ▸ .right (keeps.within (typed_node hu node) inside)⟩
  | argument mem _ ih =>
    rw [typed] at h
    obtain ⟨typedList, hargs, h⟩ := bind_eq_ok.mp h
    cases h
    obtain ⟨argument, typedArgument, found⟩ := typed_of_mem hargs mem
    obtain ⟨u, hu, inside⟩ := ih typedArgument
    exact ⟨u, hu, .argument found inside⟩

/-! ## Readings of a text -/

/--
**What a literal stands for is what a cell of the same text is read as**: a timestamp, and a date where the literal
is one.
-/
theorem temporal?_reads {text : String} {v : Value} (h : temporal? text = some v) :
    ∃ t, Timestamp.parse? text = some t ∧ asMoment? v = some t ∧ ∀ d, v = .date d → Date.parse? text = some d := by
  rcases Option.or_eq_some_iff.mp h with h | ⟨-, h⟩
  · obtain ⟨d, literal, rfl⟩ := Option.map_eq_some_iff.mp h
    have date := Date.parse?_of_ofChars? literal
    exact ⟨.midnight d, Timestamp.parse?_of_date date, rfl, fun e same => Value.date.inj same ▸ date⟩
  · obtain ⟨t, literal, rfl⟩ := Option.map_eq_some_iff.mp h
    exact ⟨t, (Timestamp.parse?_of_ofChars? literal).1, rfl, fun d same => by cases same⟩

/-- A text that is read as a date and as a timestamp stands for one moment. -/
theorem asMoment?_of_coerce? {type : FieldType} {text : String} {v : Value} {t : Timestamp}
    (temporal : type.isTemporal) (read : coerce? type (.text text) = some v) (moment : Timestamp.parse? text = some t) :
    asMoment? v = some t := by
  cases type with
  | date =>
    obtain ⟨d, date, rfl⟩ := Option.map_eq_some_iff.mp read
    rw [Timestamp.parse?_of_date date] at moment
    exact moment
  | timestamp =>
    obtain ⟨u, timestamp, rfl⟩ := Option.map_eq_some_iff.mp read
    exact timestamp.symm.trans moment
  | text | integer | decimal | boolean => cases temporal

/-- Equal values satisfy the comparisons that admit equality. -/
theorem satisfies_eq (op : BinaryOp) : satisfies op .eq = decide (op ∈ [BinaryOp.eq, .le, .ge]) := by
  cases op <;> rfl

theorem compareValues_of_moment {v w : Value} {t : Timestamp} (hv : asMoment? v = some t) (hw : asMoment? w = some t)
    (op : BinaryOp) : compareValues op v w = .ok (decide (op ∈ [BinaryOp.eq, .le, .ge])) := by
  have equal : t.cmp t = .eq := Timestamp.cmp_eq_iff.mpr rfl
  have order : order? op v w = some .eq := by
    cases v with
    | date | timestamp => cases w with
      | date | timestamp =>
        cases hv
        cases hw
        exact congrArg some equal
      | null | bool | number | text => cases hw
    | null | bool | number | text => cases hv
  have present {u : Value} (hu : asMoment? u = some t) : u.isNull = false := by cases u <;> first | rfl | cases hu
  simp only [compareValues, present hv, present hw, Bool.or_self, Bool.false_eq_true, if_false, order, satisfies_eq]

/-! ## Comparisons of a field with a literal -/

theorem asTemporal_text {text : String} {e' : Expr} (h : asTemporal (.literal (.text text)) pos = .ok e') :
    ∃ v, temporal? text = some v ∧ e' = .literal v := by
  rw [asTemporal] at h
  split at h
  · next v stands =>
    cases h
    exact ⟨v, stands, rfl⟩
  · cases h

/-- A comparison of a field with a literal, but for the literal. Either of them may stand in front. -/
structure FieldComparison where
  op : BinaryOp
  name : String
  literalFirst : Bool
  namePos : Nat
  pos : Nat

/-- The comparison with a given literal. -/
def FieldComparison.against (c : FieldComparison) (v : Value) : Expr :=
  if c.literalFirst then .binary c.op (.literal v) (.field c.name c.namePos) c.pos
  else .binary c.op (.field c.name c.namePos) (.literal v) c.pos

namespace FieldComparison

variable {c : FieldComparison} {f : Field} {text : String}

theorem against_ne_literal (v w : Value) : c.against v ≠ .literal w := by
  rw [against]
  split <;> nofun

theorem lowercase_of_proper {v : Value} (h : (c.against v).Proper) : Text.lowercase c.name = c.name := by
  rw [against] at h
  split at h
  · exact h.2
  · exact h.1

/-- A text that is compared with a date is typed as what it stands for. -/
theorem typed_against {t : Typed} (h : typed schema (c.against (.text text)) = .ok t) (comparison : c.op.isComparison)
    (named : schema.field? c.name = some f) (temporal : f.type.exprType = .temporal) :
    ∃ v, temporal? text = some v ∧ t = ⟨c.against v, .boolean⟩ := by
  have field : typed schema (.field c.name c.namePos) = .ok ⟨.field c.name c.namePos, .temporal⟩ := by
    simp only [typed, named, temporal]
  have literal : typed schema (.literal (.text text)) = .ok ⟨.literal (.text text), .text⟩ := rfl
  cases first : c.literalFirst with
  | true =>
    have form (v : Value) : c.against v = .binary c.op (.literal v) (.field c.name c.namePos) c.pos := if_pos first
    rw [form, typed, literal, field] at h
    obtain ⟨e, he, h⟩ := bind_eq_ok.mp ((if_pos comparison).symm.trans h)
    cases h
    obtain ⟨e', read, rfl⟩ := map_eq_ok.mp he
    obtain ⟨v, stands, rfl⟩ := asTemporal_text read
    exact ⟨v, stands, by rw [form]⟩
  | false =>
    have form (v : Value) : c.against v = .binary c.op (.field c.name c.namePos) (.literal v) c.pos := by
      rw [against, first]
      rfl
    rw [form, typed, literal, field] at h
    obtain ⟨e, he, h⟩ := bind_eq_ok.mp ((if_pos comparison).symm.trans h)
    cases h
    obtain ⟨e', read, rfl⟩ := map_eq_ok.mp he
    obtain ⟨v, stands, rfl⟩ := asTemporal_text read
    exact ⟨v, stands, by rw [form]⟩

/-- The comparison of the value of the field with the literal, in the order in which they are written. -/
theorem holds_against {values : Record Value} {v w : Value} {b : Bool} (comparison : c.op.isComparison)
    (value : values.get? c.name = some w)
    (compared : compareValues c.op w v = .ok b ∧ compareValues c.op v w = .ok b) (ruleId : String) (file : FileState) :
    (c.against v).holds ruleId values file = (.ok b, file) := by
  have field : eval ruleId values (.field c.name c.namePos) = pure w := by
    rw [eval, value]
  have literal : eval ruleId values (.literal v) = pure v := by rw [eval]
  have evaluated : eval ruleId values (c.against v) = pure (.bool b) := by
    rw [against]
    split
    · rw [eval_compared comparison, literal, field, pure_bind, pure_bind, compared.2]
      rfl
    · rw [eval_compared comparison, literal, field, pure_bind, pure_bind, compared.1]
      rfl
  rw [holds, evaluated]
  rfl

end FieldComparison

end RecordGate.Expr

namespace RecordGate

open RecordGate.Expr

/-- The value of a field whose cell is a text of a date or timestamp. -/
theorem Schema.get?_values_of_moment {engine : Pattern.Engine} {schema : Schema}
    (consistent : schema.consistent? engine = .ok ()) {f : Field} (declared : f ∈ schema.fields) {text : String}
    {t : Timestamp} (moment : Timestamp.parse? text = some t) {v : Value}
    (read : coerce? f.type (.text text) = some v) {row : RawRow}
    (found : (schema.resolve row).get? f.name = some (.text text)) (asOf : Date) :
    (schema.check engine row asOf).values.get? f.name = some v := by
  have filled : (some (Cell.text text)).filter (!·.isEmpty) = some (.text text) := by
    simp [Cell.isEmpty, isBlankText_of_parse? moment]
  rw [get?_values (nodup_of_consistent consistent) row asOf declared, found, Field.check_of_value row.index filled read]

/--
**A date literal means what the same text means in data.** Let a rule that compiles compare a field of dates or
timestamps with a text, anywhere in its expression and on either side. The text becomes a literal. It coerces to a
timestamp that is equal to the literal, and to the literal itself where this is a date. If it coerces to the type of the
field, a row whose cell is the text satisfies the comparison when this is `==`, `<=` or `>=`, and fails it otherwise.
-/
theorem Rule.date_literal_as_data {engine : Pattern.Engine} {rule : Rule} {schema : Schema} {compiled : CompiledRule}
    (hc : rule.compile schema = .ok compiled) {e : Expr} (he : parseExpr rule.expression = .ok e) {c : FieldComparison}
    {text : String} (comparison : c.op.isComparison) (stands : Within (c.against (.text text)) e) {f : Field}
    (named : schema.field? c.name = some f) (temporal : f.type.isTemporal) :
    ∃ literal, typed schema (c.against (.text text)) = .ok ⟨c.against literal, .boolean⟩ ∧
      Within (c.against literal) compiled.predicate ∧
      (∃ t, coerce .timestamp (.text text) = .ok (.timestamp t) ∧
        ∀ op, compareValues op (.timestamp t) literal = .ok (decide (op ∈ [BinaryOp.eq, .le, .ge]))) ∧
      (∀ d, literal = .date d → coerce .date (.text text) = .ok (.date d)) ∧
      ∀ v, schema.consistent? engine = .ok () → coerce f.type (.text text) = .ok v →
        ∀ row asOf, (schema.resolve row).get? f.name = some (.text text) → ∀ file,
          let values := (schema.check engine row asOf).values
          let satisfied := decide (c.op ∈ [BinaryOp.eq, .le, .ge])
          (c.against literal).holds compiled.id values file = (.ok satisfied, file) ∧
            (e = c.against (.text text) → compiled.judge values file = (.ok satisfied, file)) := by
  obtain ⟨e', typedRule, parsed, accepted, -, rfl⟩ := Rule.compile_ok hc
  cases he.symm.trans parsed
  obtain ⟨u, typedPart, inside⟩ := typed_within stands (c.against_ne_literal _) accepted
  have kind : f.type.exprType = .temporal := by
    cases type : f.type <;> rw [type] at temporal <;> first | rfl | cases temporal
  obtain ⟨literal, read, rfl⟩ := FieldComparison.typed_against typedPart comparison named kind
  obtain ⟨t, timestamp, moment, date⟩ := temporal?_reads read
  have coerceTimestamp : coerce .timestamp (.text text) = .ok (.timestamp t) :=
    coerce_eq_ok.mpr (congrArg (Option.map Value.timestamp) timestamp)
  have coerceDate (d : Date) (same : literal = .date d) : coerce .date (.text text) = .ok (.date d) :=
    coerce_eq_ok.mpr (congrArg (Option.map Value.date) (date d same))
  refine ⟨literal, typedPart, inside, ⟨t, coerceTimestamp, fun op => compareValues_of_moment rfl moment op⟩, coerceDate,
    fun v consistent coerced row asOf found file => ?_⟩
  -- Names are in small letters where they are read, so the field is found under the name that is written.
  obtain ⟨declared, same⟩ :=
    field?_some named (FieldComparison.lowercase_of_proper (stands.proper (proper_of_parseExpr he)))
  have read := coerce_eq_ok.mp coerced
  have value := Schema.get?_values_of_moment consistent declared timestamp read found asOf
  rw [same] at value
  have readMoment := asMoment?_of_coerce? temporal read timestamp
  have holds := FieldComparison.holds_against comparison value
    ⟨compareValues_of_moment readMoment moment c.op, compareValues_of_moment moment readMoment c.op⟩ rule.id file
  refine ⟨holds, fun whole => ?_⟩
  subst whole
  cases accepted.symm.trans typedPart
  exact holds

/-- A literal with a blank in it, in front of a field of timestamps and behind NOT: the row fails the comparison. -/
theorem Rule.date_literal_as_data_leap_day :
    let engine : Pattern.Engine := .common
    let schema : Schema := ⟨.sales, [⟨"due", .timestamp, false, []⟩], .empty⟩
    let rule : Rule := ⟨"R1", .sales, .business, "NOT '2024-2- 29' > Due", .critical, "", true, 0, "", none, none⟩
    let c : FieldComparison := ⟨.gt, "due", true, 19, 17⟩
    let e : Expr := .unary .not (c.against (.text "2024-2- 29")) 0
    let row : RawRow := ⟨1, .ofList [("DUE ", .text "2024-2- 29")]⟩
    let v : Value := .timestamp (.midnight ⟨2024, 2, 29, by decide⟩)
    parseExpr rule.expression = .ok e ∧ Within (c.against (.text "2024-2- 29")) e ∧
      schema.field? c.name = some ⟨"due", .timestamp, false, []⟩ ∧ schema.consistent? engine = .ok () ∧
      coerce .timestamp (.text "2024-2- 29") = .ok v ∧
      (schema.resolve row).get? "due" = some (.text "2024-2- 29") ∧
      ∃ compiled literal, rule.compile schema = .ok compiled ∧ Within (c.against literal) compiled.predicate ∧
        (c.against literal).holds compiled.id (schema.check engine row .epoch).values (.start .epoch) =
          (.ok false, .start .epoch) := by
  intro engine schema rule c e row v
  have tokens : tokenize "NOT '2024-2- 29' > Due" = .ok [⟨.not, 0⟩, ⟨.text "2024-2- 29", 4⟩, ⟨.op .gt, 17⟩,
    ⟨.ident "due", 19⟩, ⟨.eof, 22⟩] := by rfl
  have text : Derives .sum 31 [⟨.text "2024-2- 29", 4⟩] 0 (.literal (.text "2024-2- 29")) 0 :=
    .operand nofun (.operand nofun (.operand nofun .text))
  have field : Derives .sum 31 [⟨.ident "due", 19⟩] 0 (.field "due" 19) 0 :=
    .operand nofun (.operand nofun (.operand nofun .field))
  have derives :
      Derives .disjunction 32 [⟨.not, 0⟩, ⟨.text "2024-2- 29", 4⟩, ⟨.op .gt, 17⟩, ⟨.ident "due", 19⟩] 0 e 0 :=
    .operand nofun (.operand nofun (.not (.operand nofun (.compared rfl text field))))
  have parsed : parseExpr rule.expression = .ok e :=
    parseExpr_of_written tokens ⟨_, 22, 0, rfl, derives, ⟨by decide, trivial, trivial⟩⟩
  have stands : Within (c.against (.text "2024-2- 29")) e := .operand .here
  have named : schema.field? c.name = some ⟨"due", .timestamp, false, []⟩ := by decide +kernel
  have consistent : schema.consistent? engine = .ok () := by rfl
  have coerced : coerce .timestamp (.text "2024-2- 29") = .ok v := coerce_eq_ok.mpr (by decide +kernel)
  have found : (schema.resolve row).get? "due" = some (.text "2024-2- 29") := by decide +kernel
  have compiles : (rule.compile schema).isOk = true := by decide +kernel
  refine ⟨parsed, stands, named, consistent, coerced, found, ?_⟩
  cases compiled : rule.compile schema with
  | error fault =>
    rw [compiled] at compiles
    cases compiles
  | ok accepted =>
    obtain ⟨literal, -, inside, -, -, rows⟩ := Rule.date_literal_as_data compiled parsed rfl stands named rfl
    exact ⟨accepted, literal, rfl, inside, (rows v consistent coerced row .epoch found (.start .epoch)).1⟩

end RecordGate
