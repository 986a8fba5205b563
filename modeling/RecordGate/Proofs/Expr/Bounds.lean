import RecordGate.Proofs.Expr.Calls

/-!
# How high expressions are

Two limits are checked in different places where an expression is read: an operator between two operands
looks at the height of the tree that it builds, and a parenthesis, a call, a sign or a NOT looks at how many
constructs are open. Neither is a limit on the whole tree. Together they are one: above a tree that an
operator built there are only nodes of open constructs (`Derives.depth_le`).

The loop of a chain keeps the height of its left part and never measures the whole part. What it keeps is
the height all the same: the loop is a loop over left parts with their heights (`Parser.chain_eq`), where the
invariant is part of the type (`Parser.Measured`).

The main statement puts these beside what the numbers of calls are (`Expr.bounded_of_parseExpr`).
-/

namespace RecordGate

/-! ## The loop of a chain -/

namespace Parser

/-- The left part of a chain, with its height. -/
structure Measured where
  tree : Expr
  depth : Nat
  depth_eq : depth = tree.depth

namespace Measured

def of (e : Expr) : Measured := ⟨e, e.depth, rfl⟩

/-- One link more: the height of the new tree, from the height that was known. -/
def link (m : Measured) (o : BinaryOp) (right : Expr) (pos : Nat) : Measured where
  tree := .binary o m.tree right pos
  depth := 1 + max m.depth right.depth
  depth_eq := by rw [m.depth_eq, Expr.depth]

/-- One link more, unless the new tree is too high. -/
def joined (m : Measured) (o : BinaryOp) (right : Expr) (pos : Nat) : Parser Measured :=
  if (m.link o right pos).tree.depth > maxDepth then throw (.tooNested maxDepth pos)
  else pure (m.link o right pos)

end Measured

/-- Goes on with a chain whose left part has been read, and knows its height. -/
def linksFrom (accepts : BinaryOp → Bool) (operand : Parser Expr) : (fuel : Nat) → Measured → Parser Measured
  | 0, m => pure m
  | fuel + 1, m => do
    match (← current) with
    | ⟨.op o, pos⟩ =>
      if accepts o then
        advance
        let right ← operand
        let next ← m.joined o right pos
        linksFrom accepts operand fuel next
      else pure m
    | _ => pure m

/-- What an operator compares with the limit is the height of the tree that it builds, and what it keeps as well. -/
theorem joinedDepth_bind (m : Measured) (o : BinaryOp) (right : Expr) (pos : Nat) (next : Expr → Nat → Parser Expr) :
    joinedDepth m.depth right pos >>= next (.binary o m.tree right pos) =
      m.joined o right pos >>= fun linked => next linked.tree linked.depth := by
  have height : 1 + max m.depth right.depth = (m.link o right pos).tree.depth := (m.link o right pos).depth_eq
  rw [joinedDepth, Measured.joined, height]
  split
  · rfl
  · rw [← height]
    rfl

/-- At every turn of the loop what it keeps is the height of its tree, one link after the other. -/
theorem chainFrom_eq (accepts : BinaryOp → Bool) (operand : Parser Expr) (fuel : Nat) (m : Measured) :
    chainFrom accepts operand fuel m.tree m.depth = Measured.tree <$> linksFrom accepts operand fuel m := by
  induction fuel generalizing m with
  | zero => rfl
  | succ fuel ih =>
    rw [chainFrom, linksFrom, map_bind]
    refine congrArg (current >>= ·) (funext fun t => ?_)
    obtain ⟨token, pos⟩ := t
    cases token with
    | op o =>
      cases accepted : accepts o with
      | false => simp only [accepted, Bool.false_eq_true, if_false, map_pure]
      | true =>
        simp only [accepted, if_true, map_bind, ← ih]
        refine congrArg (advance >>= ·) (funext fun _ => congrArg (operand >>= ·) (funext fun right => ?_))
        exact joinedDepth_bind m o right pos (chainFrom accepts operand fuel)
    | _ => rfl

/-- **A chain is read by a loop over left parts with their heights.** -/
theorem chain_eq (accepts : BinaryOp → Bool) (operand : Parser Expr) :
    chain accepts operand = (do
      let left ← operand
      let whole ← linksFrom accepts operand (← get).rest.length (.of left)
      return whole.tree) := by
  refine congrArg (operand >>= ·) (funext fun left => congrArg (get >>= ·) (funext fun s => ?_))
  exact (chainFrom_eq accepts operand s.rest.length (.of left)).trans (map_eq_pure_bind _ _)

end Parser

/-! ## The height of a tree -/

/-- The limit on the trees of operators and the number of constructs that may be open bound the height together. -/
theorem Derives.depth_le {k : Phrase} {n a b limit : Nat} {ts : List Lexeme} {e : Expr} (h : Derives k n ts a e b)
    (positive : 0 < limit) (within : e.binariesWithin limit) : e.depth ≤ limit + n := by
  induction h using Derives.rec (motive_2 := fun n _ _ args _ _ =>
    Expr.allBinariesWithin limit args → Expr.depthOf args ≤ limit + n) with
  | operand _ _ ih => exact ih within
  -- The limit on the new tree says all: what is known of the operands is not needed.
  | chained | compared => exact Nat.le_trans within.1 (Nat.le_add_right _ _)
  | not _ ih | signed _ _ ih | call _ _ _ ih =>
    have inside := ih within
    rw [Expr.depth]
    omega
  | group _ ih => exact Nat.le_trans (ih within) (Nat.le_succ _)
  | bareCall =>
    rw [Expr.depth, Expr.depthOf]
    omega
  | signedNumber | number | text | truth | null | field =>
    rw [Expr.depth]
    omega
  | last _ ih within =>
    rw [Expr.depthOf, Expr.depthOf, Nat.max_zero]
    exact ih within.1
  | more _ _ ih ihs within =>
    rw [Expr.depthOf]
    exact Nat.max_le.mpr ⟨ih within.1, ihs within.2⟩

namespace Expr

theorem allBinariesWithin_iff {limit : Nat} {args : List Expr} :
    allBinariesWithin limit args ↔ ∀ e ∈ args, e.binariesWithin limit := by
  induction args with
  | nil => exact ⟨fun _ => nofun, fun _ => trivial⟩
  | cons e rest ih => rw [allBinariesWithin, ih, List.forall_mem_cons]

theorem Within.binariesWithin {part e : Expr} {limit : Nat} (h : Within part e) (within : e.binariesWithin limit) :
    part.binariesWithin limit := by
  induction h with
  | here => exact within
  | operand _ ih => exact ih within
  | left _ ih => exact ih within.2.1
  | right _ ih => exact ih within.2.2
  | argument mem _ ih => exact ih (allBinariesWithin_iff.mp within _ mem)

/-- The numbers of the calls of `unique` in an expression. -/
def uniqueSites (e : Expr) : List Nat := (e.calls.filter fun c => c.function = .unique).map CallNode.site

theorem uniqueSites_sublist (e : Expr) : e.uniqueSites.Sublist e.sites := List.filter_sublist.map _

/--
**An expression that is read is bounded, and its calls are numbered apart.** No operator between operands is
higher than 128, the whole is not higher than 160, and what the loops of the chains keep is the height of the
tree that they have built. The calls have the numbers from 0 on, each once; so in a rule that is compiled from
the expression no two calls of `unique` have one number.
-/
theorem bounded_of_parseExpr {expression : String} {e : Expr} (h : parseExpr expression = .ok e) :
    (∀ op l r pos, Within (.binary op l r pos) e → (Expr.binary op l r pos).depth ≤ 128) ∧
      e.depth ≤ 160 ∧
      (∀ accepts operand, Parser.chain accepts operand = do
        let left ← operand
        let whole ← Parser.linksFrom accepts operand (← get).rest.length (.of left)
        return whole.tree) ∧
      e.calls.map CallNode.site = List.range e.calls.length ∧
      ∀ (r : Rule) (schema : Schema) (c : CompiledRule), r.expression = expression → r.compile schema = .ok c →
        c.predicate.sites = e.sites ∧ c.predicate.uniqueSites.Nodup := by
  obtain ⟨lexemes, -, ts, last, free, rfl, derives, within⟩ := exists_written h
  refine ⟨fun op l r pos inside => (inside.binariesWithin within).1, derives.depth_le (by decide) within,
    Parser.chain_eq, sites_of_parseExpr h, fun r schema c same compiled => ?_⟩
  obtain ⟨e', read, sites⟩ := Rule.sites_predicate compiled
  rw [same, h] at read
  obtain rfl : e = e' := Except.ok.inj read
  exact ⟨sites, (Rule.nodup_sites compiled).sublist (uniqueSites_sublist c.predicate)⟩

/-- The second call stands under a NOT and has one argument more; it is numbered after the first. -/
theorem bounded_of_parseExpr_two_calls :
    let expression := "unique(a) AND NOT unique(a, b)"
    let schema : Schema := ⟨.sales, [⟨"a", .text, true, []⟩, ⟨"b", .text, false, []⟩], .empty⟩
    let rule : Rule := ⟨"R1", .sales, .business, expression, .critical, "", true, 0, "", none, none⟩
    let second : Expr := .call .unique [.field "a" 25, .field "b" 28] 1 18
    let e : Expr := .binary .and (.call .unique [.field "a" 7] 0 0) (.unary .not second 14) 10
    ∃ c, parseExpr expression = .ok e ∧ rule.compile schema = .ok c ∧ Within e e ∧ e.depth = 4 ∧ e.depth ≤ 128 ∧
      e.depth ≤ 160 ∧ e.calls.map CallNode.site = [0, 1] ∧ c.predicate.sites = e.sites ∧
      c.predicate.uniqueSites = [0, 1] ∧ c.predicate.uniqueSites.Nodup := by
  intro expression schema rule second e
  have tokens : tokenize expression = .ok [⟨.ident "unique", 0⟩, ⟨.lparen, 6⟩, ⟨.ident "a", 7⟩, ⟨.rparen, 8⟩,
      ⟨.op .and, 10⟩, ⟨.not, 14⟩, ⟨.ident "unique", 18⟩, ⟨.lparen, 24⟩, ⟨.ident "a", 25⟩, ⟨.comma, 26⟩,
      ⟨.ident "b", 28⟩, ⟨.rparen, 29⟩, ⟨.eof, 30⟩] := by decide +kernel
  have comparison {n a b : Nat} {ts : List Lexeme} {e : Expr} (h : Derives .primary n ts a e b) :
      Derives .comparison n ts a e b := .operand nofun (.operand nofun (.operand nofun (.operand nofun h)))
  have argument (n a : Nat) (name : String) (pos : Nat) :
      Derives .disjunction n [⟨.ident name, pos⟩] a (.field name pos) a :=
    .operand nofun (.operand nofun (.operand nofun (comparison .field)))
  have left : Derives .conjunction 32 [⟨.ident "unique", 0⟩, ⟨.lparen, 6⟩, ⟨.ident "a", 7⟩, ⟨.rparen, 8⟩] 0
      (.call .unique [.field "a" 7] 0 0) 1 :=
    .operand nofun (.operand nofun (comparison (.call rfl rfl (.last (argument 31 0 "a" 7)))))
  have right : Derives .negation 32 [⟨.not, 14⟩, ⟨.ident "unique", 18⟩, ⟨.lparen, 24⟩, ⟨.ident "a", 25⟩,
      ⟨.comma, 26⟩, ⟨.ident "b", 28⟩, ⟨.rparen, 29⟩] 1 (.unary .not second 14) 2 :=
    .not (.operand nofun (comparison (.call rfl rfl (.more (argument 30 1 "a" 25) (.last (argument 30 1 "b" 28))))))
  have written : e.Written _ := ⟨_, 30, 2, rfl, .operand nofun (.chained rfl rfl left right), by decide,
    ⟨trivial, trivial⟩, trivial, trivial, trivial⟩
  have parsed : parseExpr expression = .ok e := parseExpr_of_written tokens written
  have compiled : ∃ c, rule.compile schema = .ok c ∧ c.predicate = e := by
    rw [Rule.compile, parsed]
    exact ⟨_, rfl, rfl⟩
  obtain ⟨c, compiled, same⟩ := compiled
  obtain ⟨nodes, whole, -, numbers, rules⟩ := bounded_of_parseExpr parsed
  obtain ⟨sites, apart⟩ := rules rule schema c rfl compiled
  exact ⟨c, parsed, compiled, .here, by decide, nodes _ _ _ _ .here, whole, numbers, sites, by rw [same]; decide, apart⟩

end Expr

end RecordGate
