import RecordGate.Proofs.Expr.Grammar

/-!
# How the readers run

Equations and inversions for single steps of the readers of expressions: what a reader does with the
token at the front, and what its success says about it. The proofs that the readers follow the grammar
use these and never unfold a reader.
-/

namespace RecordGate

/-- The token at the front of a row of lexemes; past the last it is the end of the input. -/
def frontToken (ts : List Lexeme) : Token := (ts.headD ⟨.eof, 0⟩).token

theorem frontToken_append {ts : List Lexeme} (us : List Lexeme) (h : 0 < ts.length) :
    frontToken (ts ++ us) = frontToken ts := by
  cases ts with
  | nil => exact absurd h (Nat.lt_irrefl 0)
  | cons t ts => rfl

/-- Any other token at the front is that of a lexeme. -/
theorem eq_cons_of_frontToken {ts : List Lexeme} {token : Token} (h : frontToken ts = token)
    (ne : token ≠ .eof) : ∃ pos rest, ts = ⟨token, pos⟩ :: rest := by
  cases ts with
  | nil => exact absurd h.symm ne
  | cons t ts => exact ⟨t.pos, ts, by rw [← h]; rfl⟩

namespace Parser

variable {α β : Type}

/-! ## Sequences -/

theorem run_bind_ok {p : Parser α} {f : α → Parser β} {s s' : ParseState} {b : β} :
    (p >>= f).run s = .ok (b, s') ↔ ∃ a t, p.run s = .ok (a, t) ∧ (f a).run t = .ok (b, s') := by
  rw [StateT.run_bind]
  cases p.run s with
  | error e => simp only [bind, Except.bind, reduceCtorEq, false_and, exists_false]
  | ok r =>
    obtain ⟨a, t⟩ := r
    simp only [bind, Except.bind, Except.ok.injEq, Prod.mk.injEq]
    exact ⟨fun h => ⟨a, t, ⟨rfl, rfl⟩, h⟩, fun ⟨_, _, ⟨ha, ht⟩, h⟩ => ha ▸ ht ▸ h⟩

theorem run_bind_of_ok {p : Parser α} {f : α → Parser β} {s t : ParseState} {a : α}
    (h : p.run s = .ok (a, t)) : (p >>= f).run s = (f a).run t := by
  rw [StateT.run_bind, h]
  rfl

theorem run_bind_of_error {p : Parser α} {f : α → Parser β} {s : ParseState} {e : CompileError}
    (h : p.run s = .error e) : (p >>= f).run s = .error e := by
  rw [StateT.run_bind, h]
  rfl

theorem run_pure_ok {a b : α} {s s' : ParseState} :
    (pure a : Parser α).run s = .ok (b, s') ↔ a = b ∧ s = s' := by
  refine ⟨fun h => ?_, fun ⟨ha, hs⟩ => ha ▸ hs ▸ rfl⟩
  cases h
  exact ⟨rfl, rfl⟩

/-! ## Single tokens -/

theorem run_current (s : ParseState) : current.run s = .ok (s.rest.headD ⟨.eof, 0⟩, s) := rfl

theorem expect_cons {token : Token} {expected : Expectation} {pos c : Nat} {rest : List Lexeme} :
    (expect token expected).run ⟨⟨token, pos⟩ :: rest, c⟩ = .ok ((), ⟨rest, c⟩) := by
  rw [expect, run_bind_of_ok (run_current _), List.headD_cons, if_pos rfl]
  rfl

theorem front_of_expect {token : Token} {expected : Expectation} {s s' : ParseState}
    (h : (expect token expected).run s = .ok ((), s')) : frontToken s.rest = token := by
  rw [expect, run_bind_of_ok (run_current _)] at h
  split at h
  · next front => exact front
  · cases h

theorem expect_ok {token : Token} {expected : Expectation} {s s' : ParseState}
    (h : (expect token expected).run s = .ok ((), s')) (ne : token ≠ .eof) :
    ∃ pos, s.rest = ⟨token, pos⟩ :: s'.rest ∧ s.calls = s'.calls := by
  obtain ⟨ts, c⟩ := s
  obtain ⟨pos, rest, rfl⟩ := eq_cons_of_frontToken (front_of_expect h) ne
  rw [expect_cons] at h
  cases h
  exact ⟨pos, rfl, rfl⟩

/-! ## Binary operators -/

theorem joinedDepth_of_le {d : Nat} {r : Expr} {pos : Nat} {s : ParseState} (h : 1 + max d r.depth ≤ maxDepth) :
    (joinedDepth d r pos).run s = .ok (1 + max d r.depth, s) := by
  rw [joinedDepth, if_neg (Nat.not_lt.mpr h)]
  rfl

theorem joinedDepth_of_gt {d : Nat} {r : Expr} {pos : Nat} {s : ParseState} (h : ¬ 1 + max d r.depth ≤ maxDepth) :
    (joinedDepth d r pos).run s = .error (.tooNested maxDepth pos) := by
  rw [joinedDepth, if_pos (Nat.not_le.mp h)]
  rfl

theorem joinedDepth_ok {d d' : Nat} {r : Expr} {pos : Nat} {s s' : ParseState}
    (h : (joinedDepth d r pos).run s = .ok (d', s')) :
    d' = 1 + max d r.depth ∧ 1 + max d r.depth ≤ maxDepth ∧ s' = s := by
  by_cases le : 1 + max d r.depth ≤ maxDepth
  · rw [joinedDepth_of_le le] at h
    cases h
    exact ⟨rfl, le, rfl⟩
  · rw [joinedDepth_of_gt le] at h
    cases h

section Chain

variable {accepts : BinaryOp → Bool} {operand : Parser Expr} {fuel d : Nat} {l : Expr}

theorem chainFrom_op {o : BinaryOp} {pos c : Nat} {rest : List Lexeme} (ho : accepts o) :
    (chainFrom accepts operand (fuel + 1) l d).run ⟨⟨.op o, pos⟩ :: rest, c⟩ =
      (do
        let r ← operand
        let d ← joinedDepth d r pos
        chainFrom accepts operand fuel (.binary o l r pos) d : Parser Expr).run ⟨rest, c⟩ := by
  rw [chainFrom, run_bind_of_ok (run_current _)]
  simp only [List.headD_cons, ho, if_true]
  rfl

theorem chainFrom_done {s : ParseState} (h : ∀ o, frontToken s.rest = .op o → accepts o = false) :
    (chainFrom accepts operand fuel l d).run s = .ok (l, s) := by
  cases fuel with
  | zero => rfl
  | succ fuel =>
    rw [chainFrom, run_bind_of_ok (run_current _)]
    split
    · next o pos front =>
      rw [h o (congrArg Lexeme.token front), if_neg Bool.false_ne_true]
      rfl
    · rfl

/-- A chain either ends where it stands or takes an operator. -/
theorem chainFrom_cases (accepts : BinaryOp → Bool) (s : ParseState) :
    (∀ o, frontToken s.rest = .op o → accepts o = false) ∨
      ∃ o pos rest, accepts o ∧ s = ⟨⟨.op o, pos⟩ :: rest, s.calls⟩ := by
  by_cases h : ∃ o, frontToken s.rest = .op o ∧ accepts o
  · obtain ⟨o, front, ho⟩ := h
    obtain ⟨pos, rest, hs⟩ := eq_cons_of_frontToken front nofun
    exact .inr ⟨o, pos, rest, ho, by rw [← hs]⟩
  · exact .inl fun o front => Bool.eq_false_iff.mpr fun ho => h ⟨o, front, ho⟩

end Chain

theorem comparison_of_op {p : Parser Expr} {s : ParseState} {l : Expr} {o : BinaryOp} {pos c : Nat}
    {rest : List Lexeme} (hl : p.run s = .ok (l, ⟨⟨.op o, pos⟩ :: rest, c⟩)) (ho : o.isComparison) :
    (comparison p).run s =
      (do
        let r ← p
        let _ ← joinedDepth l.depth r pos
        return .binary o l r pos : Parser Expr).run ⟨rest, c⟩ := by
  rw [comparison, run_bind_of_ok hl, run_bind_of_ok (run_current _)]
  simp only [List.headD_cons, ho, if_true]
  rfl

theorem comparison_of_other {p : Parser Expr} {s s' : ParseState} {l : Expr} (hl : p.run s = .ok (l, s'))
    (h : ∀ o, frontToken s'.rest = .op o → o.isComparison = false) : (comparison p).run s = .ok (l, s') := by
  rw [comparison, run_bind_of_ok hl, run_bind_of_ok (run_current _)]
  split
  · next o pos front =>
    rw [h o (congrArg Lexeme.token front), if_neg Bool.false_ne_true]
    rfl
  · rfl

/-! ## Calls, groups and signs -/

/-- The readers for what stands inside a construct, when `n` more may be open. -/
def inner : (n : Nat) → Option Levels
  | 0 => none
  | n + 1 => some (levels n)

theorem levels_eq (n : Nat) : levels n = levelsOver (inner n) := by
  cases n <;> rfl

theorem enter_ok {n pos : Nat} {use : Levels → Parser α} {s : ParseState} {r : α × ParseState}
    (h : (enter (inner n) pos use).run s = .ok r) :
    ∃ m, n = m + 1 ∧ (use (levelsOver (inner m))).run s = .ok r := by
  cases n with
  | zero => cases h
  | succ m => exact ⟨m, rfl, by rw [← levels_eq]; exact h⟩

theorem enter_succ {n pos : Nat} {use : Levels → Parser α} {s : ParseState} :
    (enter (inner (n + 1)) pos use).run s = (use (levelsOver (inner n))).run s := by
  rw [← levels_eq]
  rfl

section Steps

variable {levels : Option Levels} {rest : List Lexeme} {pos c : Nat}

theorem numberOf_ok {raw : String} {s s' : ParseState} {e : Expr} :
    (numberOf raw pos).run s = .ok (e, s') ↔
      ∃ d, Decimal.ofPlain? (Token.digitsOf raw) = some d ∧ .literal (.number d) = e ∧ s = s' := by
  unfold numberOf
  dsimp only
  split
  · next d h =>
    have read : Decimal.ofPlain? (Token.digitsOf raw) = some d := h
    simp only [read, run_pure_ok, Option.some.injEq, exists_eq_left']
  · next h =>
    have unread : Decimal.ofPlain? (Token.digitsOf raw) = none := h
    constructor
    · intro h
      cases h
    · rintro ⟨d, read, -⟩
      rw [unread] at read
      cases read

theorem primary_number {raw : String} :
    (primary levels).run ⟨⟨.number raw, pos⟩ :: rest, c⟩ = (numberOf raw pos).run ⟨rest, c⟩ := rfl

theorem primary_field {name : String} (h : frontToken rest ≠ .lparen) :
    (primary levels).run ⟨⟨.ident name, pos⟩ :: rest, c⟩ = .ok (.field name pos, ⟨rest, c⟩) := by
  change (if frontToken rest = .lparen then _ else _ : Parser Expr).run _ = _
  rw [if_neg h]
  rfl

theorem primary_call {name : String} {pos' : Nat} :
    (primary levels).run ⟨⟨.ident name, pos⟩ :: ⟨.lparen, pos'⟩ :: rest, c⟩ =
      (enter levels pos fun l => callOf l.disjunction name pos).run ⟨rest, c⟩ := rfl

theorem primary_group :
    (primary levels).run ⟨⟨.lparen, pos⟩ :: rest, c⟩ =
      (enter levels pos fun l => do
        let e ← l.disjunction
        expect .rparen .closing
        return e : Parser Expr).run ⟨rest, c⟩ := rfl

theorem unary_sign :
    (unary levels).run ⟨⟨.op .sub, pos⟩ :: rest, c⟩ =
      (enter levels pos (·.unary) >>= fun e => pure (negated e pos) : Parser Expr).run ⟨rest, c⟩ := rfl

theorem unary_other {s : ParseState} (h : frontToken s.rest ≠ .op .sub) :
    (unary levels).run s = (primary levels).run s := by
  rw [unary, run_bind_of_ok (run_current _)]
  exact congrArg (StateT.run · s) (if_neg h)

theorem negation_not :
    (negation levels).run ⟨⟨.not, pos⟩ :: rest, c⟩ =
      (enter levels pos (·.negation) >>= fun e => pure (.unary .not e pos) : Parser Expr).run ⟨rest, c⟩ := rfl

theorem negation_other {s : ParseState} (h : frontToken s.rest ≠ .not) :
    (negation levels).run s = (comparison (sum levels)).run s := by
  rw [negation, run_bind_of_ok (run_current _)]
  exact congrArg (StateT.run · s) (if_neg h)

end Steps


/-- What stands between the parentheses of a call. -/
def argumentList (argument : Parser Expr) : Parser (List Expr) := do
  if (← current).token = .rparen then do
    advance
    pure []
  else arguments argument (← get).rest.length []

/-- The tree of a call whose arguments have been read. -/
def closeCall (f : Function) (pos : Nat) (args : List Expr) : Parser Expr := do
  if !f.accepts args.length then throw (.arity f args.length)
  let site := (← get).calls
  modify fun s => { s with calls := s.calls + 1 }
  return .call f args site pos

theorem callOf_eq {argument : Parser Expr} {name : String} {pos : Nat} {f : Function}
    (hf : Function.ofName? name = some f) :
    callOf argument name pos = (argumentList argument >>= closeCall f pos) := by
  rw [callOf, hf, argumentList, bind_assoc]
  refine congrArg (current >>= ·) (funext fun t => ?_)
  split
  · rw [bind_assoc]
    rfl
  · rw [bind_assoc]
    rfl

theorem closeCall_ok {f : Function} {pos : Nat} {args : List Expr} {s s' : ParseState} {e : Expr} :
    (closeCall f pos args).run s = .ok (e, s') ↔
      f.accepts args.length ∧ .call f args s.calls pos = e ∧ ⟨s.rest, s.calls + 1⟩ = s' := by
  rw [closeCall]
  cases f.accepts args.length with
  | true =>
    refine ⟨fun h => ?_, fun ⟨_, he, hs⟩ => he ▸ hs ▸ rfl⟩
    cases h
    exact ⟨rfl, rfl, rfl⟩
  | false => exact ⟨nofun, nofun⟩

theorem argumentList_bare {argument : Parser Expr} {rest : List Lexeme} {pos c : Nat} :
    (argumentList argument).run ⟨⟨.rparen, pos⟩ :: rest, c⟩ = .ok ([], ⟨rest, c⟩) := rfl

theorem argumentList_other {argument : Parser Expr} {s : ParseState} (h : frontToken s.rest ≠ .rparen) :
    (argumentList argument).run s = (arguments argument s.rest.length []).run s := by
  rw [argumentList, run_bind_of_ok (run_current _)]
  exact (congrArg (StateT.run · s) (if_neg h)).trans rfl

theorem arguments_last {argument : Parser Expr} {fuel : Nat} {done : List Expr} {s s' : ParseState} {e : Expr}
    (he : argument.run s = .ok (e, s')) (h : frontToken s'.rest ≠ .comma) :
    (arguments argument (fuel + 1) done).run s =
      (expect .rparen .argumentEnd >>= fun _ => pure (e :: done).reverse : Parser (List Expr)).run s' := by
  rw [arguments, run_bind_of_ok he, run_bind_of_ok (run_current _)]
  exact congrArg (StateT.run · s') (if_neg h)

theorem arguments_comma {argument : Parser Expr} {fuel : Nat} {done : List Expr} {s : ParseState} {e : Expr}
    {rest : List Lexeme} {pos c : Nat} (he : argument.run s = .ok (e, ⟨⟨.comma, pos⟩ :: rest, c⟩)) :
    (arguments argument (fuel + 1) done).run s = (arguments argument fuel (e :: done)).run ⟨rest, c⟩ := by
  rw [arguments, run_bind_of_ok he, run_bind_of_ok (run_current _)]
  rfl

end Parser

end RecordGate
