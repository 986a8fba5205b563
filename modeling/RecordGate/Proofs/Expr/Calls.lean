import RecordGate.Proofs.Rule.Soundness

/-!
# The calls of an expression

`Expr.calls` lists the calls that stand in an expression. Reading numbers them one after the other, in the
order in which they close (`Expr.sites_of_parseExpr`), and typing keeps the numbers (`Rule.sites_predicate`),
so a number tells a call of a compiled rule from its other calls (`Rule.nodup_sites`). What a stateful expression adds to the others is a call of `unique`
(`Expr.isStateful_iff`), and in a typed expression such a call is about declared fields
(`Expr.HasType.args_declared`).
-/

namespace RecordGate

/-- A call in an expression. -/
structure CallNode where
  function : Function
  args : List Expr
  site : Nat

namespace Expr

mutual

/-- The calls in an expression; those in the arguments of a call come before it. -/
def calls : Expr → List CallNode
  | .literal _ => []
  | .field _ _ => []
  | .unary _ e _ => e.calls
  | .binary _ l r _ => l.calls ++ r.calls
  | .call f args site _ => callsOf args ++ [⟨f, args, site⟩]

/-- The calls in several expressions. -/
def callsOf : List Expr → List CallNode
  | [] => []
  | e :: rest => e.calls ++ callsOf rest

end

/-- The numbers of the calls in an expression. -/
def sites (e : Expr) : List Nat := e.calls.map CallNode.site

/-- The numbers of the calls in several expressions. -/
def sitesOf (args : List Expr) : List Nat := (callsOf args).map CallNode.site

variable {op : BinaryOp} {e l r : Expr} {f : Function} {args rest : List Expr} {site pos : Nat}

theorem sites_binary : (Expr.binary op l r pos).sites = l.sites ++ r.sites := by
  rw [sites, calls, List.map_append, sites, sites]

theorem sites_call : (Expr.call f args site pos).sites = sitesOf args ++ [site] := by
  rw [sites, calls, List.map_append, sitesOf]
  rfl

theorem sitesOf_cons : sitesOf (e :: rest) = e.sites ++ sitesOf rest := by
  rw [sitesOf, callsOf, List.map_append, sites, sitesOf]

theorem mem_callsOf {c : CallNode} : c ∈ callsOf args ↔ ∃ e ∈ args, c ∈ e.calls := by
  induction args with
  | nil => simp [callsOf]
  | cons e rest ih => rw [callsOf, List.mem_append, ih, List.exists_mem_cons_iff]

theorem mem_calls_call {c : CallNode} :
    c ∈ (Expr.call f args site pos).calls ↔ (∃ e ∈ args, c ∈ e.calls) ∨ c = ⟨f, args, site⟩ := by
  rw [calls, List.mem_append, mem_callsOf, List.mem_singleton]

theorem mem_calls_of_ne {c : CallNode} (other : c.function ≠ f) (h : c ∈ (Expr.call f args site pos).calls) :
    ∃ e ∈ args, c ∈ e.calls :=
  (mem_calls_call.mp h).resolve_right fun own => other (own ▸ rfl)

/-! ## Stateful expressions -/

theorem anyStateful_iff : anyStateful args ↔ ∃ e ∈ args, e.isStateful := by
  induction args with
  | nil => simp [anyStateful]
  | cons e rest ih => rw [anyStateful, Bool.or_eq_true, ih, List.exists_mem_cons_iff]

/-- An expression looks at earlier rows when `unique` is called in it. -/
theorem isStateful_iff : e.isStateful ↔ ∃ c ∈ e.calls, c.function = .unique := by
  induction e with
  | literal | field => simp [isStateful, calls]
  | unary _ _ _ ih => exact ih
  | binary _ _ _ _ ihl ihr =>
    rw [isStateful, Bool.or_eq_true, ihl, ihr, calls]
    simp only [List.mem_append, or_and_right, exists_or]
  | call f args site _ ih =>
    rw [isStateful, Bool.or_eq_true, beq_iff_eq, anyStateful_iff]
    constructor
    · rintro (own | ⟨e, he, stateful⟩)
      · exact ⟨⟨f, args, site⟩, mem_calls_call.mpr (.inr rfl), own⟩
      · obtain ⟨c, hc, unique⟩ := (ih e he).mp stateful
        exact ⟨c, mem_calls_call.mpr (.inl ⟨e, he, hc⟩), unique⟩
    · rintro ⟨c, hc, unique⟩
      rcases mem_calls_call.mp hc with ⟨e, he, hc⟩ | rfl
      · exact .inr ⟨e, he, (ih e he).mpr ⟨c, hc, unique⟩⟩
      · exact .inl unique

/-! ## Reading -/

theorem range'_append_range' {a b c : Nat} (ab : a ≤ b) (bc : b ≤ c) :
    List.range' a (b - a) ++ List.range' b (c - b) = List.range' a (c - a) := by
  have start : b = a + (b - a) := by omega
  have length : c - a = b - a + (c - b) := by omega
  rw [length, ← List.range'_append_1, ← start]

/-- The calls of a phrase have the numbers from the first free number to the next free number. -/
theorem sites_of_derives {k : Phrase} {n a b : Nat} {ts : List Lexeme} (h : Derives k n ts a e b) :
    a ≤ b ∧ e.sites = List.range' a (b - a) := by
  induction h using Derives.rec (motive_2 := fun _ _ a args b _ => a ≤ b ∧ sitesOf args = List.range' a (b - a)) with
  | operand _ _ ih => exact ih
  | chained _ _ _ _ ihl ihr =>
    rw [sites_binary, ihl.2, ihr.2]
    exact ⟨Nat.le_trans ihl.1 ihr.1, range'_append_range' ihl.1 ihr.1⟩
  | compared _ _ _ ihl ihr =>
    rw [sites_binary, ihl.2, ihr.2]
    exact ⟨Nat.le_trans ihl.1 ihr.1, range'_append_range' ihl.1 ihr.1⟩
  | not _ ih => exact ih
  | signedNumber _ ih => exact ih
  | signed _ _ ih => exact ih
  | @number _ a | @text _ a | @truth _ a | @null _ a | @field _ a =>
    rw [Nat.sub_self]
    exact ⟨Nat.le_refl a, rfl⟩
  | group _ ih => exact ih
  | @bareCall _ a =>
    rw [sites_call, Nat.add_sub_cancel_left]
    exact ⟨Nat.le_succ a, rfl⟩
  -- A call closes after its arguments and takes the number that they leave free.
  | @call _ _ a _ b _ _ _ _ _ _ _ _ ih =>
    rw [sites_call, ih.2, Nat.succ_sub ih.1, List.range'_1_concat, Nat.add_sub_of_le ih.1]
    exact ⟨Nat.le_succ_of_le ih.1, rfl⟩
  | last _ ih =>
    rw [sitesOf_cons, ih.2]
    exact ⟨ih.1, List.append_nil _⟩
  | more _ _ ih ihs =>
    rw [sitesOf_cons, ih.2, ihs.2]
    exact ⟨Nat.le_trans ih.1 ihs.1, range'_append_range' ih.1 ihs.1⟩

/-- The calls of an expression that is read have the numbers from 0 on, in the order in which they close. -/
theorem sites_of_parseExpr {expression : String} (h : parseExpr expression = .ok e) :
    e.sites = List.range e.calls.length := by
  obtain ⟨lexemes, -, ts, last, free, rfl, derives, -⟩ := exists_written h
  obtain ⟨-, numbers⟩ := sites_of_derives derives
  rw [Nat.sub_zero, ← List.range_eq_range'] at numbers
  have count : e.calls.length = free := by
    rw [← List.length_range (n := free), ← numbers, sites, List.length_map]
  rw [numbers, count]

/-! ## Typing -/

variable {schema : Schema}

/-- A literal that becomes a date has no call before and none after. -/
theorem sites_asTemporal {e' : Expr} (h : asTemporal e pos = .ok e') : e'.sites = e.sites := by
  unfold asTemporal at h
  split at h
  · split at h
    · cases h
      rfl
    · cases h
  · cases h

theorem sites_typedComparison {left right : Typed} (h : typedComparison op left right pos = .ok e) :
    e.sites = left.expr.sites ++ right.expr.sites := by
  unfold typedComparison at h
  split at h
  · split at h
    · cases h
      exact sites_binary
    · cases h
  split at h
  · obtain ⟨r', hr', rfl⟩ := map_eq_ok.mp h
    rw [sites_binary, sites_asTemporal hr']
  split at h
  · obtain ⟨l', hl', rfl⟩ := map_eq_ok.mp h
    rw [sites_binary, sites_asTemporal hl']
  split at h
  · cases h
  split at h
  · cases h
  · cases h
    exact sites_binary

theorem sitesOf_typedArgs {typedList : List Expr}
    (argument : ∀ e ∈ args, ∀ t, typed schema e = .ok t → t.expr.sites = e.sites)
    (h : typedArgs schema f pos args = .ok typedList) : sitesOf typedList = sitesOf args := by
  induction args generalizing typedList with
  | nil =>
    cases h
    rfl
  | cons e rest ih =>
    obtain ⟨first, others⟩ := List.forall_mem_cons.mp argument
    obtain ⟨t, list, ht, hlist, rfl⟩ := typedArgs_cons_typed h
    rw [sitesOf_cons, sitesOf_cons, first t ht, ih others hlist]

/-- Typing keeps the calls and their numbers. -/
theorem sites_typed {t : Typed} (h : typed schema e = .ok t) : t.expr.sites = e.sites := by
  induction e generalizing t with
  | literal =>
    cases h
    rfl
  | field =>
    rw [typed] at h
    split at h
    · cases h
      rfl
    · cases h
  | unary op e pos ih =>
    rw [typed] at h
    obtain ⟨operand, hoperand, h⟩ := bind_eq_ok.mp h
    obtain ⟨⟨⟩, -, h⟩ := bind_eq_ok.mp h
    cases h
    have kept : operand.expr.sites = e.sites := ih hoperand
    exact kept
  | binary op l r pos ihl ihr =>
    rw [typed] at h
    obtain ⟨left, hl, h⟩ := bind_eq_ok.mp h
    obtain ⟨right, hr, h⟩ := bind_eq_ok.mp h
    rw [sites_binary, ← ihl hl, ← ihr hr]
    split at h
    · obtain ⟨e, he, h⟩ := bind_eq_ok.mp h
      cases h
      exact sites_typedComparison he
    · obtain ⟨⟨⟩, -, h⟩ := bind_eq_ok.mp h
      obtain ⟨⟨⟩, -, h⟩ := bind_eq_ok.mp h
      cases h
      exact sites_binary
  | call f args site pos ih =>
    rw [typed] at h
    obtain ⟨typedList, hargs, h⟩ := bind_eq_ok.mp h
    cases h
    rw [sites_call, sites_call, sitesOf_typedArgs (fun e he t ht => ih e he ht) hargs]

/-- What `unique` is called on in a typed expression are declared fields. -/
theorem HasType.args_declared {type : ExprType} (h : HasType schema e type) {c : CallNode} (hc : c ∈ e.calls)
    (unique : c.function = .unique) : ∀ a ∈ c.args, IsDeclared schema a := by
  induction h with
  | literal | field => cases hc
  | unary _ ih => exact ih hc
  | joined _ _ _ ihl ihr => exact (List.mem_append.mp hc).elim ihl ihr
  | compared _ _ _ _ _ ihl ihr => exact (List.mem_append.mp hc).elim ihl ihr
  | comparedToNull _ _ _ _ ihl ihr => exact (List.mem_append.mp hc).elim ihl ihr
  | today =>
    obtain ⟨e, he, -⟩ := mem_calls_of_ne (unique ▸ nofun) hc
    cases he
  | len _ ih =>
    obtain ⟨e, he, inside⟩ := mem_calls_of_ne (unique ▸ nofun) hc
    exact ih (List.mem_singleton.mp he ▸ inside)
  | abs _ ih =>
    obtain ⟨e, he, inside⟩ := mem_calls_of_ne (unique ▸ nofun) hc
    exact ih (List.mem_singleton.mp he ▸ inside)
  | startsWith _ _ ih ihf =>
    obtain ⟨e, he, inside⟩ := mem_calls_of_ne (unique ▸ nofun) hc
    rcases List.mem_pair.mp he with rfl | rfl
    · exact ih inside
    · exact ihf inside
  | unique hargs =>
    rcases mem_calls_call.mp hc with ⟨e, he, inside⟩ | rfl
    · obtain ⟨f, -, pos, rfl⟩ := hargs e he
      cases inside
    · exact hargs

end Expr

/-! ## Compiled rules -/

variable {r : Rule} {schema : Schema} {c : CompiledRule}

/-- The calls of a compiled rule have the numbers that they have in its expression. -/
theorem Rule.sites_predicate (h : r.compile schema = .ok c) :
    ∃ e, parseExpr r.expression = .ok e ∧ c.predicate.sites = e.sites := by
  obtain ⟨e, t, he, ht, -, rfl⟩ := Rule.compile_ok h
  exact ⟨e, he, Expr.sites_typed ht⟩

/-- The calls of a compiled rule have different numbers. -/
theorem Rule.nodup_sites (h : r.compile schema = .ok c) : c.predicate.sites.Nodup := by
  obtain ⟨e, he, same⟩ := Rule.sites_predicate h
  rw [same, Expr.sites_of_parseExpr he]
  exact List.nodup_range

/-- A compiled rule knows whether it is stateful. -/
theorem Rule.stateful_iff (h : r.compile schema = .ok c) : c.stateful = c.predicate.isStateful := by
  obtain ⟨e, t, -, -, -, rfl⟩ := Rule.compile_ok h
  rfl

end RecordGate
