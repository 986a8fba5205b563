import RecordGate.Expr.Parser

/-!
# The grammar as a relation

The documented grammar of expressions, stated apart from the readers that follow it. `Derives` relates
a row of lexemes to the tree of a derivation: each rule is a line of the grammar, or one alternative of
a line. The repetitions of the grammar are rules that recur on the left, so a chain leans to the left
by the shape of its rule, and a comparison does not chain because its operands are sums.

Three things beside the lexemes and the tree are part of the relation:

- the kind of phrase, which carries the precedences;
- how many constructs may be open at a time. A parenthesis, a call, a sign and a NOT open one, and what
  stands inside has one less to open;
- the numbers of calls. A call is numbered when it closes, so the phrases inside it come first.

The limit on the height of chains is a property of the tree alone (`Expr.binariesWithin`).
-/

namespace RecordGate

/-- The kinds of phrase of the grammar, from the loosest to the tightest. -/
inductive Phrase where
  | disjunction
  | conjunction
  | negation
  | comparison
  | sum
  | product
  | unary
  | primary
deriving DecidableEq

namespace Phrase

/-- How loosely the operators of a phrase bind. -/
def looseness : Phrase → Nat
  | disjunction => 7
  | conjunction => 6
  | negation => 5
  | comparison => 4
  | sum => 3
  | product => 2
  | unary => 1
  | primary => 0

/-- The kind of phrase that stands on either side of the operators of a phrase. -/
def operand : Phrase → Phrase
  | disjunction => conjunction
  | conjunction => negation
  | negation => comparison
  | comparison => sum
  | sum => product
  | product => unary
  | unary | primary => primary

/-- The phrases whose operators may follow one another. -/
def isChain : Phrase → Bool
  | disjunction | conjunction | sum | product => true
  | _ => false

theorem looseness_operand {k : Phrase} (hk : k ≠ primary) : k.operand.looseness + 1 = k.looseness := by
  cases k <;> first | rfl | exact absurd rfl hk

end Phrase

/-- The kind of phrase that an operator builds. -/
def BinaryOp.phrase : BinaryOp → Phrase
  | .or => .disjunction
  | .and => .conjunction
  | .eq | .ne | .lt | .gt | .le | .ge => .comparison
  | .add | .sub => .sum
  | .mul | .div => .product

/-- The digits of a number token. A point at the front stands after a zero. -/
def Token.digitsOf (raw : String) : List Char :=
  match raw.toList with
  | '.' :: rest => '0' :: '.' :: rest
  | cs => cs

mutual

/--
`Derives k n ts a e b`: the lexemes `ts` are a phrase of kind `k` in which at most `n` constructs are open
at a time, `e` is its tree, and its calls are numbered from `a` up to `b`, which is the next free number.
-/
inductive Derives : Phrase → Nat → List Lexeme → Nat → Expr → Nat → Prop where
  /-- A phrase without an operator of its own kind. -/
  | operand {k n ts a e b} (hk : k ≠ .primary) (h : Derives k.operand n ts a e b) : Derives k n ts a e b
  /-- One more link of a chain. -/
  | chained {k n ts us a b c l r o pos} (hk : k.isChain) (ho : o.phrase = k) (hl : Derives k n ts a l b)
      (hr : Derives k.operand n us b r c) :
      Derives k n (ts ++ ⟨.op o, pos⟩ :: us) a (.binary o l r pos) c
  | compared {n ts us a b c l r o pos} (ho : o.phrase = .comparison) (hl : Derives .sum n ts a l b)
      (hr : Derives .sum n us b r c) :
      Derives .comparison n (ts ++ ⟨.op o, pos⟩ :: us) a (.binary o l r pos) c
  | not {n ts a e b pos} (h : Derives .negation n ts a e b) :
      Derives .negation (n + 1) (⟨.not, pos⟩ :: ts) a (.unary .not e pos) b
  /-- A sign belongs to the number it stands before. -/
  | signedNumber {n ts a d b pos} (h : Derives .unary n ts a (.literal (.number d)) b) :
      Derives .unary (n + 1) (⟨.op .sub, pos⟩ :: ts) a (.literal (.number d.neg)) b
  | signed {n ts a e b pos} (he : ∀ d, e ≠ .literal (.number d)) (h : Derives .unary n ts a e b) :
      Derives .unary (n + 1) (⟨.op .sub, pos⟩ :: ts) a (.unary .neg e pos) b
  | number {n a raw d pos} (h : Decimal.ofPlain? (Token.digitsOf raw) = some d) :
      Derives .primary n [⟨.number raw, pos⟩] a (.literal (.number d)) a
  | text {n a s pos} : Derives .primary n [⟨.text s, pos⟩] a (.literal (.text s)) a
  | truth {n a t pos} : Derives .primary n [⟨.truth t, pos⟩] a (.literal (.bool t)) a
  | null {n a pos} : Derives .primary n [⟨.null, pos⟩] a (.literal .null) a
  | field {n a name pos} : Derives .primary n [⟨.ident name, pos⟩] a (.field name pos) a
  | group {n ts a e b pos pos'} (h : Derives .disjunction n ts a e b) :
      Derives .primary (n + 1) (⟨.lparen, pos⟩ :: ts ++ [⟨.rparen, pos'⟩]) a e b
  /-- A call with nothing between its parentheses. -/
  | bareCall {n a name f pos pos' pos''} (hf : Function.ofName? name = some f) (ha : f.accepts 0) :
      Derives .primary (n + 1) [⟨.ident name, pos⟩, ⟨.lparen, pos'⟩, ⟨.rparen, pos''⟩] a
        (.call f [] a pos) (a + 1)
  | call {n ts a args b name f pos pos' pos''} (hf : Function.ofName? name = some f)
      (ha : f.accepts args.length) (h : DerivesArgs n ts a args b) :
      Derives .primary (n + 1) (⟨.ident name, pos⟩ :: ⟨.lparen, pos'⟩ :: ts ++ [⟨.rparen, pos''⟩]) a
        (.call f args b pos) (b + 1)

/-- The arguments of a call, with commas between. -/
inductive DerivesArgs : Nat → List Lexeme → Nat → List Expr → Nat → Prop where
  | last {n ts a e b} (h : Derives .disjunction n ts a e b) : DerivesArgs n ts a [e] b
  | more {n ts us a e b args c pos} (h : Derives .disjunction n ts a e b) (rest : DerivesArgs n us b args c) :
      DerivesArgs n (ts ++ ⟨.comma, pos⟩ :: us) a (e :: args) c

end

namespace Expr

mutual

/-- No binary node of the tree is higher than the limit. -/
def binariesWithin (limit : Nat) : Expr → Prop
  | .literal _ => True
  | .field _ _ => True
  | .unary _ e _ => e.binariesWithin limit
  | .binary op l r pos =>
    (Expr.binary op l r pos).depth ≤ limit ∧ l.binariesWithin limit ∧ r.binariesWithin limit
  | .call _ args _ _ => allBinariesWithin limit args

/-- No binary node of several trees is higher than the limit. -/
def allBinariesWithin (limit : Nat) : List Expr → Prop
  | [] => True
  | e :: rest => e.binariesWithin limit ∧ allBinariesWithin limit rest

end

end Expr

/-! ## The lexemes of a phrase -/

theorem Derives.length_pos {k n ts a e b} (h : Derives k n ts a e b) : 0 < ts.length := by
  induction h using Derives.rec (motive_2 := fun _ _ _ _ _ _ => True) with
  | operand _ _ ih => exact ih
  | last | more => trivial
  | _ => simp only [List.length_cons, List.length_append, Nat.succ_pos, Nat.add_pos_right]

/-- Every argument takes a lexeme at least. -/
theorem DerivesArgs.length_le {n ts a args b} (h : DerivesArgs n ts a args b) :
    args.length ≤ ts.length := by
  induction args generalizing ts a with
  | nil => exact Nat.zero_le _
  | cons e args ih =>
    cases h with
    | last h => exact h.length_pos
    | more h rest =>
      have := ih rest
      simp only [List.length_cons, List.length_append]
      omega

/-- The end of the input is no part of a phrase. -/
theorem Derives.eof_notMem {k n ts a e b} (h : Derives k n ts a e b) : .eof ∉ ts.map Lexeme.token := by
  induction h using Derives.rec (motive_2 := fun _ ts _ _ _ _ => .eof ∉ ts.map Lexeme.token) with
  | operand _ _ ih => exact ih
  | last _ ih => exact ih
  | chained _ _ _ _ ihl ihr => simp [ihl, ihr]
  | compared _ _ _ ihl ihr => simp [ihl, ihr]
  | more _ _ ihl ihr => simp [ihl, ihr]
  | not _ ih => simp [ih]
  | signedNumber _ ih => simp [ih]
  | signed _ _ ih => simp [ih]
  | group _ ih => simp [ih]
  | call _ _ _ ih => simp [ih]
  | _ => simp

end RecordGate
