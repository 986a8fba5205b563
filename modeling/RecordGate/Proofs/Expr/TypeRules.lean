import RecordGate.Expr.Typing
import RecordGate.Proofs.Except
import RecordGate.Proofs.Expr.Trees

/-!
# The type rules

`Expr.HasType` states the types of expressions as rules, apart from the function that types them. The
rules speak of the typed expression, in which a text compared with a date has become a date.

An expression as it is written has two properties that typing relies on and does not check again: its
names are in small letters, and its calls have as many arguments as their functions take
(`Expr.Proper`). Given these, whatever `Expr.typed` accepts has the type that it gives
(`Expr.hasType_of_typed`).
-/

namespace RecordGate.Expr

/-- A reference to a field that the schema declares. -/
def IsDeclared (schema : Schema) (e : Expr) : Prop := ∃ f ∈ schema.fields, ∃ pos, e = .field f.name pos

/-- `HasType schema e τ`: on the rows of the schema the value of `e`, if it has one, is of type `τ` or null. -/
inductive HasType (schema : Schema) : Expr → ExprType → Prop where
  | literal (v : Value) : HasType schema (.literal v) v.exprType
  | field {f : Field} {pos : Nat} (hf : f ∈ schema.fields) : HasType schema (.field f.name pos) f.type.exprType
  | unary {op e pos} (he : HasType schema e (unaryType op)) : HasType schema (.unary op e pos) (unaryType op)
  /-- AND, OR and arithmetic. -/
  | joined {op l r pos} (hop : op.isComparison = false) (hl : HasType schema l (operandType op))
      (hr : HasType schema r (operandType op)) : HasType schema (.binary op l r pos) (operandType op)
  /-- Operands of one type can be compared; truth values have no order. -/
  | compared {op l r pos τ} (hop : op.isComparison) (hτ : τ ≠ .null) (order : τ = .boolean → op.isEquality)
      (hl : HasType schema l τ) (hr : HasType schema r τ) : HasType schema (.binary op l r pos) .boolean
  /-- Anything can be tested for null. -/
  | comparedToNull {op l r pos τ σ} (hop : op.isEquality) (null : τ = .null ∨ σ = .null)
      (hl : HasType schema l τ) (hr : HasType schema r σ) : HasType schema (.binary op l r pos) .boolean
  | today {site pos} : HasType schema (.call .today [] site pos) .temporal
  | len {e site pos} (he : HasType schema e .text) : HasType schema (.call .len [e] site pos) .number
  | abs {e site pos} (he : HasType schema e .number) : HasType schema (.call .abs [e] site pos) .number
  | startsWith {e front site pos} (he : HasType schema e .text) (hf : HasType schema front .text) :
      HasType schema (.call .startsWith [e, front] site pos) .boolean
  | unique {args site pos} (hargs : ∀ e ∈ args, IsDeclared schema e) :
      HasType schema (.call .unique args site pos) .boolean

variable {schema : Schema}

/-! ## Single steps of typing -/

theorem field?_some {name : String} {f : Field} (h : schema.field? name = some f)
    (small : Text.lowercase name = name) : f ∈ schema.fields ∧ f.name = name := by
  rw [Schema.field?, small] at h
  have same : (f.name == name) = true := by
    have found := List.find?_some h
    exact found
  exact ⟨List.mem_of_find?_eq_some h, beq_iff_eq.mp same⟩

theorem demand_ok {operation : Operation} {expected found : ExprType} {pos : Nat} {u : Unit}
    (h : demand operation expected found pos = .ok u) : found = expected := by
  unfold demand at h
  split at h
  · assumption
  · cases h

theorem exprType_of_temporal {text : String} {v : Value} (h : temporal? text = some v) : v.exprType = .temporal := by
  unfold temporal? at h
  rcases Option.or_eq_some_iff.mp h with h | ⟨-, h⟩
  · obtain ⟨d, -, rfl⟩ := Option.map_eq_some_iff.mp h
    rfl
  · obtain ⟨t, -, rfl⟩ := Option.map_eq_some_iff.mp h
    rfl

theorem hasType_asTemporal {e e' : Expr} {pos : Nat} (h : asTemporal e pos = .ok e') :
    HasType schema e' .temporal := by
  unfold asTemporal at h
  split at h
  · split at h
    · next v hv =>
      cases h
      exact exprType_of_temporal hv ▸ .literal v
    · cases h
  · cases h

theorem hasType_typedComparison {op : BinaryOp} {l r : Typed} {pos : Nat} {e : Expr} (hop : op.isComparison)
    (hl : HasType schema l.expr l.type) (hr : HasType schema r.expr r.type)
    (h : typedComparison op l r pos = .ok e) : HasType schema e .boolean := by
  unfold typedComparison at h
  split at h
  · next null =>
    split at h
    · next equality =>
      cases h
      simp only [Bool.or_eq_true, decide_eq_true_eq] at null
      exact .comparedToNull equality null hl hr
    · cases h
  split at h
  · next dates =>
    simp only [Bool.and_eq_true, decide_eq_true_eq] at dates
    obtain ⟨r', hr', rfl⟩ := map_eq_ok.mp h
    exact .compared (τ := .temporal) hop nofun nofun (dates.1 ▸ hl) (hasType_asTemporal hr')
  split at h
  · next dates =>
    simp only [Bool.and_eq_true, decide_eq_true_eq] at dates
    obtain ⟨l', hl', rfl⟩ := map_eq_ok.mp h
    exact .compared (τ := .temporal) hop nofun nofun (hasType_asTemporal hl') (dates.2 ▸ hr)
  split at h
  · cases h
  split at h
  · cases h
  next null _ _ same order =>
  cases h
  simp only [Bool.or_eq_true, decide_eq_true_eq, not_or] at null
  refine .compared hop null.1 (fun boolean => ?_) hl (Decidable.not_not.mp same ▸ hr)
  simpa only [boolean, decide_true, Bool.true_and, Bool.not_eq_true', Bool.not_eq_false] using order

/-! ## The arguments of calls -/

theorem typedArgs_cons {f : Function} {τ : ExprType} (hf : argumentType? f = some τ) {pos : Nat} {e : Expr}
    {rest args : List Expr} (h : typedArgs schema f pos (e :: rest) = .ok args) :
    ∃ t others, typed schema e = .ok t ∧ t.type = τ ∧ typedArgs schema f pos rest = .ok others ∧
      args = t.expr :: others := by
  rw [typedArgs, hf] at h
  obtain ⟨t, ht, h⟩ := bind_eq_ok.mp h
  obtain ⟨⟨⟩, hdemand, h⟩ := bind_eq_ok.mp h
  obtain ⟨others, hrest, h⟩ := bind_eq_ok.mp h
  cases h
  exact ⟨t, others, ht, demand_ok hdemand, hrest, rfl⟩

/-- Each argument is typed, whatever the function asks of it. -/
theorem typedArgs_cons_typed {f : Function} {pos : Nat} {e : Expr} {rest args : List Expr}
    (h : typedArgs schema f pos (e :: rest) = .ok args) :
    ∃ t others, typed schema e = .ok t ∧ typedArgs schema f pos rest = .ok others ∧ args = t.expr :: others := by
  cases asked : argumentType? f with
  | some type =>
    obtain ⟨t, others, ht, -, hrest, same⟩ := typedArgs_cons asked h
    exact ⟨t, others, ht, hrest, same⟩
  | none =>
    rw [typedArgs, asked] at h
    change (if _ then _ else _) = _ at h
    split at h
    · cases h
    · obtain ⟨t, ht, h⟩ := bind_eq_ok.mp h
      obtain ⟨others, hrest, h⟩ := bind_eq_ok.mp h
      cases h
      exact ⟨t, others, ht, hrest, rfl⟩

/-- The arguments of `unique` are fields, and they stay as they are. -/
theorem typedArgs_unique {pos : Nat} {args typedList : List Expr} (proper : AllProper args)
    (h : typedArgs schema .unique pos args = .ok typedList) : ∀ e ∈ typedList, IsDeclared schema e := by
  induction args generalizing typedList with
  | nil =>
    cases h
    nofun
  | cons e rest ih =>
    cases e with
    | field name at_ =>
      obtain ⟨t, ht, h⟩ := bind_eq_ok.mp h
      obtain ⟨others, hrest, h⟩ := bind_eq_ok.mp h
      cases h
      rw [typed] at ht
      split at ht
      · next f hf =>
        cases ht
        obtain ⟨mem, rfl⟩ := field?_some hf proper.1
        exact List.forall_mem_cons.mpr ⟨⟨f, mem, at_, rfl⟩, ih proper.2 hrest⟩
      · cases ht
    | literal | unary | binary | call => cases h

/-- How many arguments there are tells their list apart, and each has the type that its function asks for. -/
theorem hasType_call {f : Function} {args typedList : List Expr} {site pos : Nat}
    (proper : f.accepts args.length ∧ AllProper args)
    (argument : ∀ e ∈ args, ∀ t, typed schema e = .ok t → HasType schema t.expr t.type)
    (h : typedArgs schema f pos args = .ok typedList) :
    HasType schema (.call f typedList site pos) (resultType f) := by
  obtain ⟨count, proper⟩ := proper
  cases f with
  | unique => exact .unique (typedArgs_unique proper h)
  | today =>
    match args, count with
    | [], _ =>
      cases h
      exact .today
  | len =>
    match args, count with
    | [e], _ =>
      obtain ⟨t, others, ht, text, hrest, rfl⟩ := typedArgs_cons rfl h
      cases hrest
      exact .len (text ▸ argument e List.mem_cons_self t ht)
  | abs =>
    match args, count with
    | [e], _ =>
      obtain ⟨t, others, ht, number, hrest, rfl⟩ := typedArgs_cons rfl h
      cases hrest
      exact .abs (number ▸ argument e List.mem_cons_self t ht)
  | startsWith =>
    match args, count with
    | [e, front], _ =>
      obtain ⟨t, others, ht, text, hrest, rfl⟩ := typedArgs_cons rfl h
      obtain ⟨tf, none, htf, textf, hnone, rfl⟩ := typedArgs_cons rfl hrest
      cases hnone
      exact .startsWith (text ▸ argument e List.mem_cons_self t ht)
        (textf ▸ argument front (List.mem_cons_of_mem _ List.mem_cons_self) tf htf)

/-- **Typing is sound**: what `typed` accepts has the type that it gives. -/
theorem hasType_of_typed {e : Expr} {t : Typed} (proper : e.Proper) (h : typed schema e = .ok t) :
    HasType schema t.expr t.type := by
  induction e generalizing t with
  | literal v =>
    cases h
    exact .literal v
  | field name pos =>
    rw [typed] at h
    split at h
    · next f hf =>
      cases h
      obtain ⟨mem, rfl⟩ := field?_some hf proper
      exact .field mem
    · cases h
  | unary op e pos ih =>
    rw [typed] at h
    obtain ⟨t, ht, h⟩ := bind_eq_ok.mp h
    obtain ⟨⟨⟩, hdemand, h⟩ := bind_eq_ok.mp h
    cases h
    exact .unary (demand_ok hdemand ▸ ih proper ht)
  | binary op l r pos ihl ihr =>
    rw [typed] at h
    obtain ⟨tl, htl, h⟩ := bind_eq_ok.mp h
    obtain ⟨tr, htr, h⟩ := bind_eq_ok.mp h
    have hl := ihl proper.1 htl
    have hr := ihr proper.2 htr
    split at h
    · next comparison =>
      obtain ⟨e, he, h⟩ := bind_eq_ok.mp h
      cases h
      exact hasType_typedComparison comparison hl hr he
    · next comparison =>
      obtain ⟨⟨⟩, demandl, h⟩ := bind_eq_ok.mp h
      obtain ⟨⟨⟩, demandr, h⟩ := bind_eq_ok.mp h
      cases h
      exact .joined (Bool.eq_false_iff.mpr comparison) (demand_ok demandl ▸ hl) (demand_ok demandr ▸ hr)
  | call f args site pos ih =>
    rw [typed] at h
    obtain ⟨typedList, hargs, h⟩ := bind_eq_ok.mp h
    cases h
    have argument (e : Expr) (he : e ∈ args) (t : Typed) (ht : typed schema e = .ok t) :
        HasType schema t.expr t.type := ih e he (allProper_iff.mp proper.2 e he) ht
    exact hasType_call proper argument hargs

end RecordGate.Expr
