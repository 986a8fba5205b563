import RecordGate.Proofs.Rule.Soundness

/-!
# What a judgement depends on

A judgement depends on the fields that the predicate lists and on nothing else of the row: rows that agree on
them are judged alike from every state of the file, and leave the same state (`Expr.eval_congr`). The listed names
are declared (`Expr.HasType.declared`), and each is listed once (`Expr.nodup_fields`).
-/

namespace RecordGate

namespace Expr

theorem anyMentions_iff {name : String} {args : List Expr} : AnyMentions name args ↔ ∃ e ∈ args, e.Mentions name := by
  induction args with
  | nil => exact ⟨nofun, nofun⟩
  | cons e rest ih => rw [AnyMentions, ih, List.exists_mem_cons_iff]

/-! ## Two rows -/

section Rows

variable {ruleId : String} {row row' : Record Value}

theorem evalArgs_congr {args : List Expr} (same : ∀ e ∈ args, eval ruleId row e = eval ruleId row' e) :
    evalArgs ruleId row args = evalArgs ruleId row' args := by
  induction args with
  | nil => rfl
  | cons e rest ih =>
    obtain ⟨first, others⟩ := List.forall_mem_cons.mp same
    rw [evalArgs, evalArgs, first, ih others]

/--
**Evaluation depends on the fields that the expression mentions.** The two computations are equal, so they give
the same value or the same failure from every state of the file and leave the same state.
-/
theorem eval_congr {e : Expr} (agree : ∀ name, e.Mentions name → row.get? name = row'.get? name) :
    eval ruleId row e = eval ruleId row' e := by
  induction e with
  | literal => rfl
  | field name pos => rw [eval, eval, agree name rfl]
  | unary op e pos ih => rw [eval, eval, ih agree]
  | binary op l r pos ihl ihr =>
    have left := ihl fun name mentioned => agree name (.inl mentioned)
    have right := ihr fun name mentioned => agree name (.inr mentioned)
    rw [eval, eval, left, right]
  | call f args site pos ih =>
    have arguments : evalArgs ruleId row args = evalArgs ruleId row' args := evalArgs_congr fun e he =>
      ih e he fun name mentioned => agree name (anyMentions_iff.mpr ⟨e, he, mentioned⟩)
    rw [eval, eval, arguments]

end Rows

/-! ## The list of fields -/

theorem nodup_addFieldsOf {args : List Expr} {found : List String}
    (argument : ∀ e ∈ args, ∀ found : List String, found.Nodup → (e.addFields found).Nodup) (distinct : found.Nodup) :
    (addFieldsOf found args).Nodup := by
  induction args generalizing found with
  | nil => exact distinct
  | cons e rest ih =>
    obtain ⟨first, others⟩ := List.forall_mem_cons.mp argument
    exact ih others (first found distinct)

/-- A name that has been found is not listed again. -/
theorem nodup_addFields (e : Expr) {found : List String} (distinct : found.Nodup) : (e.addFields found).Nodup := by
  induction e generalizing found with
  | literal => exact distinct
  | field name pos =>
    rw [addFields]
    split
    · exact distinct
    · next unknown =>
      have fresh : name ∉ found := fun known => unknown (List.contains_iff_mem.mpr known)
      exact distinct.append (List.nodup_singleton name) (List.disjoint_singleton.mpr fresh)
  | unary _ _ _ ih => exact ih distinct
  | binary _ _ _ _ ihl ihr => exact ihr (ihl distinct)
  | call _ _ _ _ ih => exact nodup_addFieldsOf (fun e he _ => ih e he) distinct

theorem nodup_fields (e : Expr) : e.fields.Nodup := nodup_addFields e List.nodup_nil

/-- A typed expression mentions declared fields only. -/
theorem HasType.declared {schema : Schema} {e : Expr} {type : ExprType} (h : HasType schema e type) {name : String}
    (mentioned : e.Mentions name) : name ∈ schema.fieldNames := by
  induction h with
  | literal => exact mentioned.elim
  | field hf => exact mentioned ▸ List.mem_map_of_mem hf
  | unary _ ih => exact ih mentioned
  | joined _ _ _ ihl ihr => exact mentioned.elim ihl ihr
  | compared _ _ _ _ _ ihl ihr => exact mentioned.elim ihl ihr
  | comparedToNull _ _ _ _ ihl ihr => exact mentioned.elim ihl ihr
  | today => exact mentioned.elim
  | len _ ih => exact mentioned.elim ih False.elim
  | abs _ ih => exact mentioned.elim ih False.elim
  | startsWith _ _ ih ihf => exact mentioned.elim ih fun rest => rest.elim ihf False.elim
  | unique hargs =>
    obtain ⟨e, he, inside⟩ := anyMentions_iff.mp mentioned
    obtain ⟨f, hf, pos, rfl⟩ := hargs e he
    exact inside ▸ List.mem_map_of_mem hf

end Expr

namespace CompiledRule

variable {schema : Schema} {r : Rule} {c : CompiledRule}

/--
**The listed fields are all that a judgement depends on.** Two rows that give the same value to each of them,
whatever their other fields, are judged alike from every state of the file and leave the same state. Each listed
name is a field that the schema declares, and it is listed once.
-/
theorem judge_congr_fields (hc : r.compile schema = .ok c) :
    (∀ row row' : Record Value, (∀ name ∈ c.predicate.fields, row.get? name = row'.get? name) →
      ∀ file, c.judge row file = c.judge row' file) ∧
      (∀ name ∈ c.predicate.fields, name ∈ schema.fieldNames) ∧ c.predicate.fields.Nodup := by
  refine ⟨fun row row' agree file => ?_, fun name listed => ?_, Expr.nodup_fields _⟩
  · have same : Expr.eval c.id row c.predicate = Expr.eval c.id row' c.predicate :=
      Expr.eval_congr fun name mentioned => agree name (Expr.mem_fields.mpr mentioned)
    rw [judge, judge, Expr.holds, Expr.holds, same]
  · exact (Rule.hasType_predicate hc).declared (Expr.mem_fields.mp listed)

/-- A call of `unique` that is reached on rows which differ in a note and in a field of neither schema nor rule. -/
theorem judge_congr_fields_two_notes :
    let schema : Schema := ⟨.sales, [⟨"note", .text, false, []⟩, ⟨"amount", .decimal, true, []⟩,
      ⟨"code", .text, true, []⟩], .empty⟩
    let rule : Rule := ⟨"R1", .sales, .business, "Amount > 0 AND unique(code, amount)", .warning, "", true, 0, "", none,
      none⟩
    let row : Record Value := .ofList [("amount", .number .one), ("code", .text "a"), ("note", .null)]
    let row' : Record Value := .ofList [("amount", .number .one), ("code", .text "a"), ("note", .text "b"),
      ("rate", .bool true)]
    ∃ c, rule.compile schema = .ok c ∧ c.predicate.fields = ["amount", "code"] ∧
      (∀ name ∈ c.predicate.fields, row.get? name = row'.get? name) ∧
      (∀ file, c.judge row file = c.judge row' file) ∧ ∀ name ∈ c.predicate.fields, name ∈ schema.fieldNames := by
  intro schema rule row row'
  have compiles : ((rule.compile schema).toOption.any fun c => c.predicate.fields = ["amount", "code"]) = true := by
    decide +kernel
  cases compiled : rule.compile schema with
  | error e =>
    rw [compiled] at compiles
    cases compiles
  | ok c =>
    rw [compiled] at compiles
    have listed : c.predicate.fields = ["amount", "code"] := of_decide_eq_true compiles
    have agree : ∀ name ∈ c.predicate.fields, row.get? name = row'.get? name := by
      rw [listed]
      decide +kernel
    obtain ⟨alike, declared, -⟩ := judge_congr_fields compiled
    exact ⟨c, rfl, listed, agree, alike row row' agree, declared⟩

end CompiledRule

end RecordGate
