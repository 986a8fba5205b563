import RecordGate.Proofs.Expr.Parsing

/-!
# The readers find every phrase

In front of lexemes that do not go on with it, every phrase is read to its end (`Derives.reads`). The
induction is on the derivation. A chain is where grammar and reader differ in shape: the grammar adds
links at the end and the reader takes them from the front, so the statement says what the reader still
does after a phrase (`Parser.goOn`).
-/

namespace RecordGate

/-! ## What ends a phrase and what opens one -/

namespace Phrase

/-- A phrase of the kind ends before the token, and so does any longer phrase of the kind. -/
def StopsBefore (k : Phrase) (t : Token) : Prop :=
  t ≠ .lparen ∧ ∀ o, t = .op o → k.looseness < o.phrase.looseness

/-- A phrase of the kind ends before the token; if it is a chain, it may have another link. -/
def EndsBefore (k : Phrase) (t : Token) : Prop :=
  t ≠ .lparen ∧ ∀ o, t = .op o → k.looseness < o.phrase.looseness ∨ k.isChain ∧ o.phrase = k

theorem StopsBefore.endsBefore {k : Phrase} {t : Token} (h : k.StopsBefore t) : k.EndsBefore t :=
  ⟨h.1, fun o ho => .inl (h.2 o ho)⟩

/-- What ends a phrase stops the phrases it is built from. -/
theorem EndsBefore.operand {k : Phrase} (hk : k ≠ primary) {t : Token} (h : k.EndsBefore t) :
    k.operand.StopsBefore t := by
  refine ⟨h.1, fun o ho => ?_⟩
  have tighter := looseness_operand hk
  rcases h.2 o ho with looser | ⟨-, same⟩
  · omega
  · rw [same]
    omega

/-- A token that is no operator and opens nothing stops every phrase. -/
theorem stopsBefore_of {k : Phrase} {t : Token} (call : t ≠ .lparen) (op : ∀ o, t ≠ .op o) : k.StopsBefore t :=
  ⟨call, fun o ho => absurd ho (op o)⟩

theorem StopsBefore.not_op {k : Phrase} {t : Token} (h : k.StopsBefore t) {o : BinaryOp}
    (ho : o.phrase.looseness ≤ k.looseness) : t ≠ .op o :=
  fun front => Nat.not_lt.mpr ho (h.2 o front)

end Phrase

/-- Whether a phrase of the kind can start with the token. -/
def Token.opens (k : Phrase) : Token → Bool
  | .number _ | .text _ | .truth _ | .null | .ident _ | .lparen => true
  | .op .sub => 1 ≤ k.looseness
  | .not => 5 ≤ k.looseness
  | _ => false

theorem Token.opens_of_operand {k : Phrase} {t : Token} (h : t.opens k.operand) : t.opens k := by
  cases k <;> cases t with
  | op o => cases o <;> first | exact h | rfl
  | _ => first | exact h | rfl

theorem Token.opens_ne {k : Phrase} {t u : Token} (h : t.opens k) (closed : u.opens k = false) : t ≠ u := by
  rintro rfl
  exact Bool.false_ne_true (closed.symm.trans h)

theorem Derives.opens {k n ts a e b} (h : Derives k n ts a e b) : (frontToken ts).opens k := by
  induction h using Derives.rec (motive_2 := fun _ _ _ _ _ _ => True) with
  | operand _ _ ih => exact Token.opens_of_operand ih
  | chained _ _ hl _ ih => exact frontToken_append _ hl.length_pos ▸ ih
  | compared _ hl _ ih => exact frontToken_append _ hl.length_pos ▸ Token.opens_of_operand ih
  | last | more => trivial
  | _ => rfl

/-- A row of arguments starts as its first argument does. -/
theorem DerivesArgs.opens {n ts a args b} (h : DerivesArgs n ts a args b) (rest : List Lexeme) :
    (frontToken (ts ++ rest)).opens .disjunction := by
  cases h with
  | last h => exact frontToken_append _ h.length_pos ▸ h.opens
  | more h => exact List.append_assoc _ _ _ ▸ frontToken_append _ h.length_pos ▸ h.opens

namespace Parser

/-! ## After a phrase -/

/-- A chain goes on in the same way with any fuel that covers the lexemes that are left. -/
theorem chainFrom_fuel {k : Phrase} {n : Nat} {p : Parser Expr} (hp : Sound k.operand n p) {f g d : Nat}
    {l : Expr} {s : ParseState} (hf : s.rest.length ≤ f) (hg : s.rest.length ≤ g) :
    (chainFrom (fun o => o.phrase = k) p f l d).run s = (chainFrom (fun o => o.phrase = k) p g l d).run s := by
  induction f generalizing g l d s with
  | zero =>
    have empty : s.rest = [] := List.eq_nil_of_length_eq_zero (Nat.le_zero.mp hf)
    rw [chainFrom_done (by rw [empty]; nofun), chainFrom_done (by rw [empty]; nofun)]
  | succ f ih =>
    rcases chainFrom_cases (fun o => o.phrase = k) s with done | ⟨o, pos, rest, ho, hs⟩
    · rw [chainFrom_done done, chainFrom_done done]
    · have len : s.rest.length = rest.length + 1 := congrArg (List.length ·.rest) hs
      obtain ⟨g, rfl⟩ : ∃ g', g = g' + 1 := ⟨g - 1, by omega⟩
      rw [hs, chainFrom_op ho, chainFrom_op ho]
      cases hr : p.run ⟨rest, s.calls⟩ with
      | error e => rw [run_bind_of_error hr, run_bind_of_error hr]
      | ok result =>
        obtain ⟨r, t⟩ := result
        rw [run_bind_of_ok hr, run_bind_of_ok hr]
        by_cases le : 1 + max d r.depth ≤ maxDepth
        · have shorter : t.rest.length ≤ rest.length := (hp hr).length_le
          rw [run_bind_of_ok (joinedDepth_of_le le), run_bind_of_ok (joinedDepth_of_le le)]
          exact ih (by omega) (by omega)
        · rw [run_bind_of_error (joinedDepth_of_gt le), run_bind_of_error (joinedDepth_of_gt le)]

/-- What the reader of a kind still does after a phrase of that kind: a chain may go on. -/
def goOn (levels : Option Levels) (k : Phrase) (e : Expr) : Parser Expr := do
  if k.isChain then
    chainFrom (fun o => o.phrase = k) (reader levels k.operand) (← get).rest.length e e.depth
  else pure e

theorem goOn_chain {levels : Option Levels} {k : Phrase} (hk : k.isChain) {e : Expr} {s : ParseState} :
    (goOn levels k e).run s =
      (chainFrom (fun o => o.phrase = k) (reader levels k.operand) s.rest.length e e.depth).run s := by
  rw [goOn, if_pos hk]
  rfl

theorem goOn_other {levels : Option Levels} {k : Phrase} (hk : k.isChain = false) {e : Expr} {s : ParseState} :
    (goOn levels k e).run s = .ok (e, s) := by
  rw [goOn, hk]
  rfl

/-- Nothing is left to do where the phrase cannot go on. -/
theorem goOn_done {levels : Option Levels} {k : Phrase} {e : Expr} {s : ParseState}
    (h : k.StopsBefore (frontToken s.rest)) : (goOn levels k e).run s = .ok (e, s) := by
  by_cases hk : k.isChain
  · rw [goOn_chain hk]
    refine chainFrom_done fun o front => decide_eq_false fun same => ?_
    exact h.not_op (same ▸ Nat.le_refl _) front
  · exact goOn_other (Bool.eq_false_iff.mpr hk)

/-- Only a number takes the sign. -/
theorem negated_of_ne {e : Expr} {pos : Nat} (he : ∀ d, e ≠ .literal (.number d)) :
    negated e pos = .unary .neg e pos := by
  unfold negated
  split
  · exact absurd rfl (he _)
  · rfl

theorem binariesWithin_of_negated {limit : Nat} {e : Expr} {pos : Nat}
    (h : (negated e pos).binariesWithin limit) : e.binariesWithin limit := by
  unfold negated at h
  split at h
  · exact trivial
  · exact h

/-! ## One rule of the grammar at a time -/

/-- Before lexemes that end the phrase, its reader takes it and goes on behind it. -/
def Reads (k : Phrase) (n : Nat) (ts : List Lexeme) (a : Nat) (e : Expr) (b : Nat) : Prop :=
  e.binariesWithin maxDepth → ∀ rest, k.EndsBefore (frontToken rest) →
    (reader (inner n) k).run ⟨ts ++ rest, a⟩ = (goOn (inner n) k e).run ⟨rest, b⟩

/-- Before a closing parenthesis, the arguments of a call are read with any fuel that covers them. -/
def ReadsArgs (n : Nat) (ts : List Lexeme) (a : Nat) (args : List Expr) (b : Nat) : Prop :=
  Expr.allBinariesWithin maxDepth args → ∀ rest fuel done pos, args.length ≤ fuel →
    (arguments (disjunction (inner n)) fuel done).run ⟨ts ++ ⟨.rparen, pos⟩ :: rest, a⟩ =
      .ok (done.reverse ++ args, ⟨rest, b⟩)

section Reads

variable {k : Phrase} {n a b c : Nat} {ts us : List Lexeme} {e l r : Expr} {o : BinaryOp} {pos pos' : Nat}

/-- Before lexemes with which the phrase cannot go on, its reader takes it and nothing else. -/
theorem Reads.stops (h : Reads k n ts a e b) (he : e.binariesWithin maxDepth) {rest : List Lexeme}
    (hr : k.StopsBefore (frontToken rest)) : (reader (inner n) k).run ⟨ts ++ rest, a⟩ = .ok (e, ⟨rest, b⟩) := by
  rw [h he rest hr.endsBefore, goOn_done hr]

theorem reads_operand (hk : k ≠ .primary) (hd : Derives k.operand n ts a e b) (h : Reads k.operand n ts a e b) :
    Reads k n ts a e b := by
  intro he rest hr
  have tight : (reader (inner n) k.operand).run ⟨ts ++ rest, a⟩ = .ok (e, ⟨rest, b⟩) :=
    h.stops he (hr.operand hk)
  have front : frontToken (ts ++ rest) = frontToken ts := frontToken_append rest hd.length_pos
  by_cases chained : k.isChain
  · rw [reader_chain chained, goOn_chain chained, chain, run_bind_of_ok tight]
    rfl
  rw [goOn_other (Bool.eq_false_iff.mpr chained)]
  cases k with
  | disjunction | conjunction | sum | product => exact absurd rfl chained
  | primary => exact absurd rfl hk
  | negation =>
    exact (negation_other (front ▸ Token.opens_ne hd.opens rfl)).trans tight
  | comparison =>
    refine comparison_of_other tight fun o ho => Bool.eq_false_iff.mpr fun hc => ?_
    rcases hr.2 o ho with looser | ⟨chain, -⟩
    · rw [isComparison_iff.mp hc] at looser
      exact Nat.lt_irrefl _ looser
    · exact chained chain
  | unary =>
    exact (unary_other (front ▸ Token.opens_ne hd.opens rfl)).trans tight

/-- The left part is read first, and what the chain does behind it is to take the operator. -/
theorem reads_chained (hk : k.isChain) (ho : o.phrase = k) (hl : Reads k n ts a l b)
    (hr : Reads k.operand n us b r c) : Reads k n (ts ++ ⟨.op o, pos⟩ :: us) a (.binary o l r pos) c := by
  rintro ⟨le, hbl, hbr⟩ rest ends
  have link : k.EndsBefore (frontToken (⟨.op o, pos⟩ :: (us ++ rest))) :=
    ⟨nofun, fun _ same => .inr ⟨hk, by cases same; exact ho⟩⟩
  have right : (reader (inner n) k.operand).run ⟨us ++ rest, b⟩ = .ok (r, ⟨rest, c⟩) :=
    hr.stops hbr (ends.operand (by rintro rfl; exact Bool.false_ne_true hk))
  rw [List.append_assoc, List.cons_append, hl hbl _ link, goOn_chain hk, goOn_chain hk, List.length_cons,
    chainFrom_op (decide_eq_true ho), run_bind_of_ok right, run_bind_of_ok (joinedDepth_of_le le)]
  refine chainFrom_fuel (sound_reader n k.operand) ?_ (Nat.le_refl _)
  rw [List.length_append]
  exact Nat.le_add_left _ _

theorem reads_compared (ho : o.phrase = .comparison) (hl : Reads .sum n ts a l b) (hr : Reads .sum n us b r c) :
    Reads .comparison n (ts ++ ⟨.op o, pos⟩ :: us) a (.binary o l r pos) c := by
  rintro ⟨le, hbl, hbr⟩ rest ends
  have link : Phrase.sum.StopsBefore (.op o) :=
    ⟨nofun, fun _ same => by cases same; rw [ho]; decide⟩
  have left : (sum (inner n)).run ⟨ts ++ ⟨.op o, pos⟩ :: (us ++ rest), a⟩ =
      .ok (l, ⟨⟨.op o, pos⟩ :: (us ++ rest), b⟩) := hl.stops hbl link
  have right : (sum (inner n)).run ⟨us ++ rest, b⟩ = .ok (r, ⟨rest, c⟩) :=
    hr.stops hbr (Phrase.EndsBefore.operand (k := .comparison) nofun ends)
  rw [goOn_other rfl, List.append_assoc, List.cons_append]
  refine (comparison_of_op left (isComparison_iff.mpr ho)).trans ?_
  rw [run_bind_of_ok right, run_bind_of_ok (joinedDepth_of_le le)]
  rfl

theorem reads_not (h : Reads .negation n ts a e b) :
    Reads .negation (n + 1) (⟨.not, pos⟩ :: ts) a (.unary .not e pos) b := by
  intro he rest ends
  have inside : (negation (inner n)).run ⟨ts ++ rest, a⟩ = .ok (e, ⟨rest, b⟩) :=
    (h he rest ends).trans (goOn_other rfl)
  rw [goOn_other rfl, List.cons_append]
  refine negation_not.trans ?_
  rw [run_bind_of_ok (enter_succ.trans inside)]
  rfl

theorem reads_signed (h : Reads .unary n ts a e b) :
    Reads .unary (n + 1) (⟨.op .sub, pos⟩ :: ts) a (negated e pos) b := by
  intro he rest ends
  have inside : (unary (inner n)).run ⟨ts ++ rest, a⟩ = .ok (e, ⟨rest, b⟩) :=
    (h (binariesWithin_of_negated he) rest ends).trans (goOn_other rfl)
  rw [goOn_other rfl, List.cons_append]
  refine unary_sign.trans ?_
  rw [run_bind_of_ok (enter_succ.trans inside)]
  rfl

theorem reads_group (h : Reads .disjunction n ts a e b) :
    Reads .primary (n + 1) (⟨.lparen, pos⟩ :: ts ++ [⟨.rparen, pos'⟩]) a e b := by
  intro he rest _
  have inside : (disjunction (inner n)).run ⟨ts ++ ⟨.rparen, pos'⟩ :: rest, a⟩ =
      .ok (e, ⟨⟨.rparen, pos'⟩ :: rest, b⟩) := h.stops he (Phrase.stopsBefore_of nofun nofun)
  rw [goOn_other rfl, List.append_assoc, List.cons_append]
  refine primary_group.trans (enter_succ.trans ?_)
  refine (run_bind_of_ok inside).trans ?_
  rw [run_bind_of_ok expect_cons]
  rfl

theorem reads_last (h : Reads .disjunction n ts a e b) : ReadsArgs n ts a [e] b := by
  rintro ⟨he, -⟩ rest fuel done pos len
  obtain ⟨fuel, rfl⟩ := Nat.exists_eq_succ_of_ne_zero (Nat.ne_of_gt len)
  have last : (disjunction (inner n)).run ⟨ts ++ ⟨.rparen, pos⟩ :: rest, a⟩ =
      .ok (e, ⟨⟨.rparen, pos⟩ :: rest, b⟩) := h.stops he (Phrase.stopsBefore_of nofun nofun)
  rw [arguments_last last nofun, run_bind_of_ok expect_cons, List.reverse_cons]
  rfl

theorem reads_more {args : List Expr} (h : Reads .disjunction n ts a e b) (hs : ReadsArgs n us b args c) :
    ReadsArgs n (ts ++ ⟨.comma, pos⟩ :: us) a (e :: args) c := by
  rintro ⟨he, hargs⟩ rest fuel done pos' len
  obtain ⟨fuel, rfl⟩ := Nat.exists_eq_succ_of_ne_zero (Nat.ne_of_gt (Nat.zero_lt_of_lt len))
  have first : (disjunction (inner n)).run ⟨ts ++ ⟨.comma, pos⟩ :: (us ++ ⟨.rparen, pos'⟩ :: rest), a⟩ =
      .ok (e, ⟨⟨.comma, pos⟩ :: (us ++ ⟨.rparen, pos'⟩ :: rest), b⟩) :=
    h.stops he (Phrase.stopsBefore_of nofun nofun)
  rw [List.append_assoc, List.cons_append, arguments_comma first,
    hs hargs rest fuel (e :: done) pos' (Nat.le_of_succ_le_succ len), List.reverse_cons, List.append_assoc,
    List.singleton_append]

theorem reads_bareCall {name : String} {f : Function} {pos'' : Nat} (hf : Function.ofName? name = some f)
    (ha : f.accepts 0) :
    Reads .primary (n + 1) [⟨.ident name, pos⟩, ⟨.lparen, pos'⟩, ⟨.rparen, pos''⟩] a (.call f [] a pos)
      (a + 1) := by
  intro _ rest _
  rw [goOn_other rfl]
  refine primary_call.trans (enter_succ.trans ?_)
  rw [callOf_eq hf]
  exact (run_bind_of_ok argumentList_bare).trans (closeCall_ok.mpr ⟨ha, rfl, rfl⟩)

theorem reads_call {name : String} {f : Function} {args : List Expr} {pos'' : Nat}
    (hf : Function.ofName? name = some f) (ha : f.accepts args.length) (hd : DerivesArgs n ts a args b)
    (h : ReadsArgs n ts a args b) :
    Reads .primary (n + 1) (⟨.ident name, pos⟩ :: ⟨.lparen, pos'⟩ :: ts ++ [⟨.rparen, pos''⟩]) a
      (.call f args b pos) (b + 1) := by
  intro hargs rest _
  have fuel : args.length ≤ (ts ++ ⟨.rparen, pos''⟩ :: rest).length := by
    rw [List.length_append]
    exact Nat.le_add_right_of_le hd.length_le
  have front : frontToken (ts ++ ⟨.rparen, pos''⟩ :: rest) ≠ .rparen := Token.opens_ne (hd.opens _) rfl
  rw [goOn_other rfl, List.append_assoc, List.cons_append, List.cons_append]
  refine primary_call.trans (enter_succ.trans ?_)
  rw [callOf_eq hf]
  refine (run_bind_of_ok ((argumentList_other front).trans (h hargs rest _ [] pos'' fuel))).trans ?_
  exact closeCall_ok.mpr ⟨ha, rfl, rfl⟩

end Reads

end Parser

open RecordGate.Parser in
/-- **Every phrase is read**: a derivation is what its reader finds. -/
theorem Derives.reads {k : Phrase} {n a b : Nat} {ts : List Lexeme} {e : Expr} (h : Derives k n ts a e b) :
    Reads k n ts a e b := by
  induction h using Derives.rec (motive_2 := fun n ts a args b _ => ReadsArgs n ts a args b) with
  | operand hk hd ih => exact reads_operand hk hd ih
  | chained hk ho _ _ ihl ihr => exact reads_chained hk ho ihl ihr
  | compared ho _ _ ihl ihr => exact reads_compared ho ihl ihr
  | not _ ih => exact reads_not ih
  | signedNumber _ ih => exact reads_signed ih
  | signed he _ ih => exact negated_of_ne he ▸ reads_signed ih
  | number hd =>
    intro _ rest _
    exact primary_number.trans (numberOf_ok.mpr ⟨_, hd, rfl, rfl⟩)
  | text | truth | null =>
    intro _ rest _
    rfl
  | field =>
    intro _ rest ends
    exact primary_field ends.1
  | group _ ih => exact reads_group ih
  | bareCall hf ha => exact reads_bareCall hf ha
  | call hf ha hd ih => exact reads_call hf ha hd ih
  | last _ ih => exact reads_last ih
  | more _ _ ih ihs => exact reads_more ih ihs

end RecordGate
