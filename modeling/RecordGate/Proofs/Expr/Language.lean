import RecordGate.Proofs.Expr.Reading
import RecordGate.Proofs.Expr.Tokens
import RecordGate.Proofs.Expr.Trees

/-!
# The language of expressions

`parseExpr` gives a tree exactly for the rows of lexemes that the grammar derives, and then the tree of
the derivation. `Expr.Written` says which trees a row of lexemes is a written form of.
-/

namespace RecordGate

/--
The lexemes are a written form of the tree: before the end of the input they are a disjunction with at
most `maxNesting` constructs open at a time, and no binary node of the tree is higher than `maxDepth`.
-/
def Expr.Written (e : Expr) (lexemes : List Lexeme) : Prop :=
  ∃ ts last calls, lexemes = ts ++ [⟨.eof, last⟩] ∧ Derives .disjunction maxNesting ts 0 e calls ∧
    e.binariesWithin maxDepth

/-- There is one way to split a row at its only end of the input. -/
theorem eq_of_eof_at_front {us ts rest : List Lexeme} {last : Lexeme} (split : us ++ [last] = ts ++ rest)
    (hus : ∀ t ∈ us, t.token ≠ .eof) (hlast : last.token = .eof) (hts : .eof ∉ ts.map Lexeme.token)
    (front : frontToken rest = .eof) : ts = us := by
  rcases List.append_eq_append_iff.mp split with ⟨as, rfl, end_⟩ | ⟨bs, rfl, rfl⟩
  · rcases List.append_eq_singleton_iff.mp end_.symm with ⟨rfl, -⟩ | ⟨rfl, -⟩
    · exact List.append_nil us
    · refine absurd ?_ hts
      rw [List.map_append, ← hlast]
      exact List.mem_append_right _ (List.mem_singleton_self _)
  · cases bs with
    | nil => exact (List.append_nil ts).symm
    | cons b bs => exact absurd front (hus b (List.mem_append_right _ List.mem_cons_self))

section ParseExpr

open RecordGate.Parser

variable {expression : String} {lexemes : List Lexeme} {e : Expr}

theorem parseExpr_eq (h : tokenize expression = .ok lexemes) :
    parseExpr expression =
      (reader (inner maxNesting) .disjunction >>= fun e => do
        expect .eof .endOfExpression
        return e : Parser Expr).run' ⟨lexemes, 0⟩ := by
  rw [parseExpr, h]
  rfl

theorem run'_ok {p : Parser Expr} {s : ParseState} : p.run' s = .ok e ↔ ∃ s', p.run s = .ok (e, s') := by
  change Prod.fst <$> p.run s = _ ↔ _
  cases p.run s with
  | error err => exact ⟨nofun, nofun⟩
  | ok r =>
    refine ⟨fun h => ?_, fun ⟨s', h⟩ => ?_⟩
    · cases h
      exact ⟨r.2, rfl⟩
    · cases h
      rfl

/-- A reading that ends at an end of the input has taken all that stands before it. -/
theorem written_of_parseExpr (h : tokenize expression = .ok lexemes) (he : parseExpr expression = .ok e) :
    e.Written lexemes := by
  rw [parseExpr_eq h] at he
  obtain ⟨s, hs⟩ := run'_ok.mp he
  obtain ⟨e, t, read, after⟩ := run_bind_ok.mp hs
  obtain ⟨⟨⟩, t', atEnd, result⟩ := run_bind_ok.mp after
  obtain ⟨rfl, rfl⟩ := run_pure_ok.mp result
  obtain ⟨ts, split, derives, within⟩ := sound_reader maxNesting .disjunction read
  obtain ⟨us, last, rfl, proper⟩ := tokenize_ok h
  obtain rfl : ts = us :=
    eq_of_eof_at_front split (fun t ht => (proper t ht).1) rfl derives.eof_notMem (front_of_expect atEnd)
  exact ⟨ts, last, _, rfl, derives, within⟩

/-- An expression that is read has tokens, and they are a written form of its tree. -/
theorem exists_written (he : parseExpr expression = .ok e) :
    ∃ lexemes, tokenize expression = .ok lexemes ∧ e.Written lexemes := by
  cases h : tokenize expression with
  | error err =>
    rw [parseExpr, h] at he
    cases he
  | ok lexemes => exact ⟨lexemes, rfl, written_of_parseExpr h he⟩

theorem parseExpr_of_written (h : tokenize expression = .ok lexemes) (he : e.Written lexemes) :
    parseExpr expression = .ok e := by
  obtain ⟨ts, last, calls, rfl, derives, within⟩ := he
  have read : (reader (inner maxNesting) .disjunction).run ⟨ts ++ [⟨.eof, last⟩], 0⟩ =
      .ok (e, ⟨[⟨.eof, last⟩], calls⟩) := derives.reads.stops within (Phrase.stopsBefore_of nofun nofun)
  rw [parseExpr_eq h]
  refine run'_ok.mpr ⟨⟨[], calls⟩, ?_⟩
  rw [run_bind_of_ok read, run_bind_of_ok expect_cons]
  rfl

/-! ## What the tree of an expression has -/

/-- The tree of proper tokens is proper: a name is a token, and a call has been counted when it was read. -/
theorem Derives.proper {k : Phrase} {n a b : Nat} {ts : List Lexeme} (h : Derives k n ts a e b)
    (tokens : ∀ t ∈ ts, t.token.Proper) : e.Proper := by
  induction h using Derives.rec (motive_2 := fun _ ts _ args _ _ => (∀ t ∈ ts, t.token.Proper) →
    Expr.AllProper args) with
  | operand _ _ ih => exact ih tokens
  | chained _ _ _ _ ihl ihr =>
    obtain ⟨left, right⟩ := List.forall_mem_append.mp tokens
    exact ⟨ihl left, ihr (List.forall_mem_cons.mp right).2⟩
  | compared _ _ _ ihl ihr =>
    obtain ⟨left, right⟩ := List.forall_mem_append.mp tokens
    exact ⟨ihl left, ihr (List.forall_mem_cons.mp right).2⟩
  | not _ ih => exact ih (List.forall_mem_cons.mp tokens).2
  | signed _ _ ih => exact ih (List.forall_mem_cons.mp tokens).2
  | signedNumber | number | text | truth | null => trivial
  | field => exact (tokens _ List.mem_cons_self).2 _ rfl
  | group _ ih => exact ih (List.forall_mem_append.mp (List.forall_mem_cons.mp tokens).2).1
  | bareCall _ accepts => exact ⟨accepts, trivial⟩
  | call _ accepts _ ih =>
    have inside := (List.forall_mem_cons.mp (List.forall_mem_cons.mp tokens).2).2
    exact ⟨accepts, ih (List.forall_mem_append.mp inside).1⟩
  | last _ ih tokens => exact ⟨ih tokens, trivial⟩
  | more _ _ ih ihs tokens =>
    obtain ⟨first, others⟩ := List.forall_mem_append.mp tokens
    exact ⟨ih first, ihs (List.forall_mem_cons.mp others).2⟩

theorem proper_of_parseExpr (he : parseExpr expression = .ok e) : e.Proper := by
  obtain ⟨lexemes, h, ts, last, calls, rfl, derives, -⟩ := exists_written he
  obtain ⟨us, last', same, proper⟩ := tokenize_ok h
  obtain rfl := (List.append_inj' same rfl).1
  exact derives.proper proper

end ParseExpr

/--
**The expressions that are accepted are those of the grammar**, and each gives the tree of its
derivation. Everything else is an error.
-/
theorem parseExpr_ok_iff_written {expression : String} {lexemes : List Lexeme}
    (h : tokenize expression = .ok lexemes) :
    (∀ e, parseExpr expression = .ok e ↔ e.Written lexemes) ∧
      ((∀ e : Expr, ¬ e.Written lexemes) → ∃ error, parseExpr expression = .error error) := by
  have accepts (e : Expr) : parseExpr expression = .ok e ↔ e.Written lexemes :=
    ⟨written_of_parseExpr h, parseExpr_of_written h⟩
  refine ⟨accepts, fun none => ?_⟩
  cases result : parseExpr expression with
  | ok e => exact absurd ((accepts e).mp result) (none e)
  | error error => exact ⟨error, rfl⟩

/-- The first sign belongs to the number, the second subtracts, the third is a node of the tree. -/
theorem parseExpr_three_signs :
    let lexemes : List Lexeme := [⟨.op .sub, 0⟩, ⟨.number "1", 1⟩, ⟨.op .sub, 3⟩, ⟨.op .sub, 5⟩,
      ⟨.ident "x", 6⟩, ⟨.op .eq, 8⟩, ⟨.number "2", 11⟩, ⟨.eof, 12⟩]
    let minusOne : Expr := .literal (.number ⟨true, 1, 0, by decide, by decide⟩)
    let two : Expr := .literal (.number ⟨false, 2, 0, by decide, by decide⟩)
    let tree : Expr := .binary .eq (.binary .sub minusOne (.unary .neg (.field "x" 6) 5) 3) two 8
    tokenize "-1 - -x == 2" = .ok lexemes ∧ tree.Written lexemes ∧ parseExpr "-1 - -x == 2" = .ok tree := by
  intro lexemes minusOne two tree
  have tokens : tokenize "-1 - -x == 2" = .ok lexemes := rfl
  have number (raw : String) (pos : Nat) (d : Decimal) (h : Decimal.ofPlain? (Token.digitsOf raw) = some d)
      {n : Nat} : Derives .unary n [⟨.number raw, pos⟩] 0 (.literal (.number d)) 0 :=
    .operand nofun (.number h)
  have left : Derives .sum 32 [⟨.op .sub, 0⟩, ⟨.number "1", 1⟩] 0 minusOne 0 :=
    .operand nofun (.operand nofun (.signedNumber (number "1" 1 Decimal.one rfl)))
  have right : Derives .product 32 [⟨.op .sub, 5⟩, ⟨.ident "x", 6⟩] 0 (.unary .neg (.field "x" 6) 5) 0 :=
    .operand nofun (.signed nofun (.operand nofun .field))
  have last : Derives .sum 32 [⟨.number "2", 11⟩] 0 two 0 :=
    .operand nofun (.operand nofun (number "2" 11 _ rfl))
  have whole : Derives .comparison 32 lexemes.dropLast 0 tree 0 :=
    .compared rfl (.chained rfl rfl left right) last
  have written : tree.Written lexemes :=
    ⟨_, 12, 0, rfl, .operand nofun (.operand nofun (.operand nofun whole)),
      ⟨by decide, ⟨by decide, trivial, trivial⟩, trivial⟩⟩
  exact ⟨tokens, written, ((parseExpr_ok_iff_written tokens).1 tree).mpr written⟩

end RecordGate
