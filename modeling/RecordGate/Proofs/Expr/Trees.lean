import RecordGate.Expr.Basic
import RecordGate.Text.Lowercase

/-!
# Trees of expressions

Induction over expressions, with the hypothesis for every argument of a call (`Expr.induction`).

`Expr.fields` lists the names that stand in an expression. `Expr.Mentions` says the same of one name by
recursion on the tree, which is the form that proofs about evaluation use (`Expr.mem_fields`).

`Expr.Proper` says what every expression that has been read has, and what typing relies on. It holds of all
parts (`Expr.Within`) of an expression that it holds of.
-/

namespace RecordGate.Expr

/-- Induction over the nodes of an expression. -/
@[elab_as_elim, induction_eliminator]
theorem induction {motive : Expr → Prop} (literal : ∀ v, motive (.literal v))
    (field : ∀ name pos, motive (.field name pos)) (unary : ∀ op e pos, motive e → motive (.unary op e pos))
    (binary : ∀ op l r pos, motive l → motive r → motive (.binary op l r pos))
    (call : ∀ f args site pos, (∀ e ∈ args, motive e) → motive (.call f args site pos)) (e : Expr) : motive e :=
  Expr.rec (motive_2 := fun args => ∀ e ∈ args, motive e) literal field unary binary call nofun
    (fun _ _ first others => List.forall_mem_cons.mpr ⟨first, others⟩) e

/-! ## Names -/

mutual

/-- The name of a field stands in the expression. -/
def Mentions (name : String) : Expr → Prop
  | .literal _ => False
  | .field other _ => other = name
  | .unary _ e _ => e.Mentions name
  | .binary _ l r _ => l.Mentions name ∨ r.Mentions name
  | .call _ args _ _ => AnyMentions name args

/-- The name of a field stands in one of several expressions. -/
def AnyMentions (name : String) : List Expr → Prop
  | [] => False
  | e :: rest => e.Mentions name ∨ AnyMentions name rest

end

theorem mem_addFieldsOf {name : String} {args : List Expr} {found : List String}
    (h : ∀ e ∈ args, ∀ found : List String, name ∈ e.addFields found ↔ name ∈ found ∨ e.Mentions name) :
    name ∈ addFieldsOf found args ↔ name ∈ found ∨ AnyMentions name args := by
  induction args generalizing found with
  | nil => simp only [addFieldsOf, AnyMentions, or_false]
  | cons e rest ih =>
    obtain ⟨first, others⟩ := List.forall_mem_cons.mp h
    rw [addFieldsOf, ih others, first, AnyMentions, or_assoc]

theorem mem_addFields {name : String} (e : Expr) (found : List String) :
    name ∈ e.addFields found ↔ name ∈ found ∨ e.Mentions name := by
  induction e generalizing found with
  | literal => simp only [addFields, Mentions, or_false]
  | field other =>
    rw [addFields, Mentions]
    split
    · next known =>
      have mem : other ∈ found := List.contains_iff_mem.mp known
      exact ⟨.inl, fun h => h.elim id fun same => same ▸ mem⟩
    · rw [List.mem_append, List.mem_singleton, eq_comm (a := name)]
  | unary _ _ _ ih => exact ih found
  | binary _ _ _ _ ihl ihr => rw [addFields, ihr, ihl, Mentions, or_assoc]
  | call _ _ _ _ ih => exact mem_addFieldsOf ih

/-- The names that are listed are those that stand in the expression. -/
theorem mem_fields {name : String} {e : Expr} : name ∈ e.fields ↔ e.Mentions name := by
  rw [fields, mem_addFields]
  simp only [List.not_mem_nil, false_or]

/-! ## What the written form guarantees -/

mutual

/-- Names are in small letters and calls have arguments in number. -/
def Proper : Expr → Prop
  | .literal _ => True
  | .field name _ => Text.lowercase name = name
  | .unary _ e _ => e.Proper
  | .binary _ l r _ => l.Proper ∧ r.Proper
  | .call f args _ _ => f.accepts args.length ∧ AllProper args

/-- Several expressions are proper. -/
def AllProper : List Expr → Prop
  | [] => True
  | e :: rest => e.Proper ∧ AllProper rest

end

theorem allProper_iff {args : List Expr} : AllProper args ↔ ∀ e ∈ args, e.Proper := by
  induction args with
  | nil => exact ⟨fun _ => nofun, fun _ => trivial⟩
  | cons e rest ih => rw [AllProper, ih, List.forall_mem_cons]

/-! ## Parts of expressions -/

/-- `Within part e`: the expression `part` stands somewhere in `e`. -/
inductive Within (part : Expr) : Expr → Prop where
  | here : Within part part
  | operand {op e pos} (inside : Within part e) : Within part (.unary op e pos)
  | left {op l r pos} (inside : Within part l) : Within part (.binary op l r pos)
  | right {op l r pos} (inside : Within part r) : Within part (.binary op l r pos)
  | argument {f args e site pos} (mem : e ∈ args) (inside : Within part e) : Within part (.call f args site pos)

theorem Within.proper {part e : Expr} (h : Within part e) (proper : e.Proper) : part.Proper := by
  induction h with
  | here => exact proper
  | operand _ ih => exact ih proper
  | left _ ih => exact ih proper.1
  | right _ ih => exact ih proper.2
  | argument mem _ ih => exact ih (allProper_iff.mp proper.2 _ mem)

end RecordGate.Expr
