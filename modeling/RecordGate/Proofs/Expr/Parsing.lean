import RecordGate.Proofs.Expr.Readers

/-!
# The readers follow the grammar

What a reader takes off the front of its lexemes is a phrase of its kind, and the tree that it gives is
the tree of that phrase (`Parser.sound_reader`). The induction is on the nesting that is left, and inside
it goes from the tight phrases to the loose ones. `Proofs.Expr.Reading` is the converse.
-/

namespace RecordGate

namespace Parser

/-- The reader of a kind of phrase, over the readers for what stands inside its constructs. -/
def reader (levels : Option Levels) : Phrase → Parser Expr
  | .disjunction => disjunction levels
  | .conjunction => conjunction levels
  | .negation => negation levels
  | .comparison => comparison (sum levels)
  | .sum => sum levels
  | .product => product levels
  | .unary => unary levels
  | .primary => primary levels

/-- A chain is read from operands of the kind below and the operators of its own kind. -/
theorem reader_chain {levels : Option Levels} {k : Phrase} (hk : k.isChain) :
    reader levels k = chain (fun o => o.phrase = k) (reader levels k.operand) := by
  cases k with
  | disjunction => exact congrArg (chain · _) (funext fun o => by cases o <;> rfl)
  | conjunction => exact congrArg (chain · _) (funext fun o => by cases o <;> rfl)
  | sum => exact congrArg (chain · _) (funext fun o => by cases o <;> rfl)
  | product => exact congrArg (chain · _) (funext fun o => by cases o <;> rfl)
  | negation | comparison | unary | primary => exact absurd hk Bool.false_ne_true

theorem isComparison_iff {o : BinaryOp} : o.isComparison ↔ o.phrase = .comparison := by
  cases o <;> decide

/-! ## What has been read -/

/-- Between two states a phrase of the given kind has been read, and the tree is its tree. -/
def Took (k : Phrase) (n : Nat) (e : Expr) (s s' : ParseState) : Prop :=
  ∃ ts, s.rest = ts ++ s'.rest ∧ Derives k n ts s.calls e s'.calls ∧ e.binariesWithin maxDepth

/-- Whatever the reader gives, it has read a phrase of the given kind. -/
def Sound (k : Phrase) (n : Nat) (p : Parser Expr) : Prop :=
  ∀ ⦃s e s'⦄, p.run s = .ok (e, s') → Took k n e s s'

theorem Took.operand {k : Phrase} {n : Nat} {e : Expr} {s s' : ParseState} (hk : k ≠ .primary)
    (h : Took k.operand n e s s') : Took k n e s s' := by
  obtain ⟨ts, hs, hd, hb⟩ := h
  exact ⟨ts, hs, .operand hk hd, hb⟩

/-- The lexemes left after a phrase are fewer. -/
theorem Took.length_le {k : Phrase} {n : Nat} {e : Expr} {s s' : ParseState} (h : Took k n e s s') :
    s'.rest.length ≤ s.rest.length := by
  obtain ⟨ts, hs, _, _⟩ := h
  rw [hs, List.length_append]
  exact Nat.le_add_left _ _

/-- The links of a chain: from a phrase that has been read, to the end of the chain. -/
theorem took_chainFrom {k : Phrase} (hk : k.isChain) {n : Nat} {p : Parser Expr} (hp : Sound k.operand n p)
    {fuel : Nat} {l e : Expr} {s₀ s s' : ParseState} (hl : Took k n l s₀ s)
    (h : (chainFrom (fun o => o.phrase = k) p fuel l l.depth).run s = .ok (e, s')) : Took k n e s₀ s' := by
  induction fuel generalizing l s with
  | zero =>
    obtain ⟨rfl, rfl⟩ := run_pure_ok.mp h
    exact hl
  | succ fuel ih =>
    rcases chainFrom_cases (fun o => o.phrase = k) s with done | ⟨o, pos, after, ho, hs⟩
    · rw [chainFrom_done done] at h
      cases h
      exact hl
    · rw [hs, chainFrom_op ho] at h
      obtain ⟨r, t, hr, rest⟩ := run_bind_ok.mp h
      obtain ⟨d, t', hd, links⟩ := run_bind_ok.mp rest
      obtain ⟨rfl, le, rfl⟩ := joinedDepth_ok hd
      refine ih ?_ links
      obtain ⟨ts, hts, hdl, hbl⟩ := hl
      obtain ⟨us, hus, hdr, hbr⟩ := hp hr
      have front : s.rest = ⟨.op o, pos⟩ :: after := congrArg ParseState.rest hs
      refine ⟨ts ++ ⟨.op o, pos⟩ :: us, ?_, .chained hk (of_decide_eq_true ho) hdl hdr, le, hbl, hbr⟩
      rw [hts, front, List.append_assoc, List.cons_append, ← hus]

theorem sound_chain {k : Phrase} (hk : k.isChain) {n : Nat} {p : Parser Expr} (hp : Sound k.operand n p) :
    Sound k n (chain (fun o => o.phrase = k) p) := by
  intro s e s' h
  obtain ⟨l, t, hl, h⟩ := run_bind_ok.mp h
  obtain ⟨t', t'', hget, h⟩ := run_bind_ok.mp h
  cases hget
  have took : Took k n l s t := (hp hl).operand (by rintro rfl; exact Bool.false_ne_true hk)
  exact took_chainFrom hk hp took h

theorem sound_comparison {n : Nat} {p : Parser Expr} (hp : Sound .sum n p) :
    Sound .comparison n (comparison p) := by
  intro s e s' h
  have read := h
  obtain ⟨l, t, hl, -⟩ := run_bind_ok.mp h
  rcases chainFrom_cases (fun o => o.isComparison) t with done | ⟨o, pos, rest, ho, ht⟩
  · rw [comparison_of_other hl done] at read
    cases read
    exact (hp hl).operand nofun
  · obtain ⟨ts, hts, hdl, hbl⟩ := hp hl
    rw [ht] at hl
    rw [comparison_of_op hl ho] at read
    obtain ⟨r, u, hr, joined⟩ := run_bind_ok.mp read
    obtain ⟨d, u', hd, result⟩ := run_bind_ok.mp joined
    obtain ⟨-, le, rfl⟩ := joinedDepth_ok hd
    obtain ⟨rfl, rfl⟩ := run_pure_ok.mp result
    obtain ⟨us, hus, hdr, hbr⟩ := hp hr
    have front : t.rest = ⟨.op o, pos⟩ :: rest := congrArg ParseState.rest ht
    refine ⟨ts ++ ⟨.op o, pos⟩ :: us, ?_, .compared (isComparison_iff.mp ho) hdl hdr, le, hbl, hbr⟩
    rw [hts, front, List.append_assoc, List.cons_append, ← hus]

theorem sound_arguments {n : Nat} {p : Parser Expr} (hp : Sound .disjunction n p) {fuel : Nat}
    {done all : List Expr} {s s' : ParseState} (h : (arguments p fuel done).run s = .ok (all, s')) :
    ∃ args ts pos, all = done.reverse ++ args ∧ s.rest = ts ++ ⟨.rparen, pos⟩ :: s'.rest ∧
      DerivesArgs n ts s.calls args s'.calls ∧ Expr.allBinariesWithin maxDepth args := by
  induction fuel generalizing done s with
  | zero => cases h
  | succ fuel ih =>
    have read := h
    obtain ⟨e, t, he, -⟩ := run_bind_ok.mp h
    obtain ⟨ts, hts, hde, hbe⟩ := hp he
    by_cases comma : frontToken t.rest = .comma
    · obtain ⟨pos, after, front⟩ := eq_cons_of_frontToken comma nofun
      rw [show t = ⟨⟨.comma, pos⟩ :: after, t.calls⟩ from front ▸ rfl] at he
      rw [arguments_comma he] at read
      obtain ⟨args, us, pos', rfl, hus, hda, hba⟩ := ih read
      refine ⟨e :: args, ts ++ ⟨.comma, pos⟩ :: us, pos', ?_, ?_, .more hde hda, hbe, hba⟩
      · rw [List.reverse_cons, List.append_assoc, List.singleton_append]
      · rw [hts, front, List.append_assoc, List.cons_append, ← hus]
    · rw [arguments_last he comma] at read
      obtain ⟨⟨⟩, u, hclose, result⟩ := run_bind_ok.mp read
      obtain ⟨rfl, rfl⟩ := run_pure_ok.mp result
      obtain ⟨pos, hu, calls⟩ := expect_ok hclose nofun
      refine ⟨[e], ts, pos, List.reverse_cons, hu ▸ hts, calls ▸ .last hde, hbe, trivial⟩

theorem took_call {n : Nat} {p : Parser Expr} (hp : Sound .disjunction n p) {name : String} {pos pos' : Nat}
    {s s' : ParseState} {e : Expr} (h : (callOf p name pos).run s = .ok (e, s')) :
    Took .primary (n + 1) e ⟨⟨.ident name, pos⟩ :: ⟨.lparen, pos'⟩ :: s.rest, s.calls⟩ s' := by
  cases hf : Function.ofName? name with
  | none =>
    rw [callOf, hf] at h
    cases h
  | some f =>
    rw [callOf_eq hf] at h
    obtain ⟨args, t, hargs, hclose⟩ := run_bind_ok.mp h
    obtain ⟨ha, rfl, rfl⟩ := closeCall_ok.mp hclose
    by_cases bare : frontToken s.rest = .rparen
    · obtain ⟨pos'', after, front⟩ := eq_cons_of_frontToken bare (by simp)
      rw [show s = ⟨⟨.rparen, pos''⟩ :: after, s.calls⟩ from front ▸ rfl, argumentList_bare] at hargs
      cases hargs
      exact ⟨_, congrArg _ (congrArg _ front), .bareCall hf ha, trivial⟩
    · rw [argumentList_other bare] at hargs
      obtain ⟨args, ts, pos'', rfl, hs, hd, hb⟩ := sound_arguments hp hargs
      exact ⟨_, congrArg _ (congrArg _ (hs.trans (List.append_cons _ _ _))), .call hf ha hd, hb⟩

theorem sound_primary {n : Nat} (hi : ∀ m, n = m + 1 → Sound .disjunction m (disjunction (inner m))) :
    Sound .primary n (primary (inner n)) := by
  rintro ⟨ts, c⟩ e s' h
  match ts with
  | [] => cases h
  | ⟨token, pos⟩ :: rest =>
    cases token with
    | number raw =>
      rw [primary_number] at h
      obtain ⟨d, hd, rfl, rfl⟩ := numberOf_ok.mp h
      exact ⟨[_], rfl, .number hd, trivial⟩
    | text s =>
      cases h
      exact ⟨[_], rfl, .text, trivial⟩
    | truth b =>
      cases h
      exact ⟨[_], rfl, .truth, trivial⟩
    | null =>
      cases h
      exact ⟨[_], rfl, .null, trivial⟩
    | ident name =>
      by_cases opens : frontToken rest = .lparen
      · obtain ⟨pos', rest, rfl⟩ := eq_cons_of_frontToken opens nofun
        rw [primary_call] at h
        obtain ⟨m, rfl, hcall⟩ := enter_ok h
        exact took_call (hi m rfl) hcall
      · rw [primary_field opens] at h
        cases h
        exact ⟨[_], rfl, .field, trivial⟩
    | lparen =>
      rw [primary_group] at h
      obtain ⟨m, rfl, hgroup⟩ := enter_ok h
      obtain ⟨e, t, he, after⟩ := run_bind_ok.mp hgroup
      obtain ⟨⟨⟩, t', hclose, result⟩ := run_bind_ok.mp after
      obtain ⟨rfl, rfl⟩ := run_pure_ok.mp result
      obtain ⟨pos', ht, calls⟩ := expect_ok hclose nofun
      obtain ⟨ts, hts, hd, hb⟩ := hi m rfl he
      refine ⟨⟨.lparen, pos⟩ :: ts ++ [⟨.rparen, pos'⟩], ?_, calls ▸ .group hd, hb⟩
      rw [List.append_assoc, List.singleton_append, ← ht, List.cons_append]
      exact congrArg _ hts
    | not | op | rparen | comma | eof => cases h

theorem sound_unary {n : Nat} (hp : Sound .primary n (primary (inner n)))
    (hi : ∀ m, n = m + 1 → Sound .unary m (unary (inner m))) : Sound .unary n (unary (inner n)) := by
  rintro ⟨ts, c⟩ e s' h
  by_cases sign : frontToken ts = .op .sub
  · obtain ⟨pos, rest, rfl⟩ := eq_cons_of_frontToken sign nofun
    rw [unary_sign] at h
    obtain ⟨e, t, hinside, result⟩ := run_bind_ok.mp h
    obtain ⟨rfl, rfl⟩ := run_pure_ok.mp result
    obtain ⟨m, rfl, he⟩ := enter_ok hinside
    obtain ⟨ts, hts, hd, hb⟩ := hi m rfl he
    refine ⟨⟨.op .sub, pos⟩ :: ts, congrArg _ hts, ?_⟩
    unfold negated
    split
    · exact ⟨.signedNumber hd, trivial⟩
    · next ne => exact ⟨.signed ne hd, hb⟩
  · rw [unary_other sign] at h
    exact (hp h).operand nofun

theorem sound_negation {n : Nat} (hc : Sound .comparison n (comparison (sum (inner n))))
    (hi : ∀ m, n = m + 1 → Sound .negation m (negation (inner m))) :
    Sound .negation n (negation (inner n)) := by
  rintro ⟨ts, c⟩ e s' h
  by_cases not : frontToken ts = .not
  · obtain ⟨pos, rest, rfl⟩ := eq_cons_of_frontToken not nofun
    rw [negation_not] at h
    obtain ⟨e, t, hinside, result⟩ := run_bind_ok.mp h
    obtain ⟨rfl, rfl⟩ := run_pure_ok.mp result
    obtain ⟨m, rfl, he⟩ := enter_ok hinside
    obtain ⟨ts, hts, hd, hb⟩ := hi m rfl he
    exact ⟨⟨.not, pos⟩ :: ts, congrArg _ hts, .not hd, hb⟩
  · rw [negation_other not] at h
    exact (hc h).operand nofun

/-- **Every reader is sound**: what it takes is a phrase of its kind with no more open than allowed. -/
theorem sound_reader (n : Nat) (k : Phrase) : Sound k n (reader (inner n) k) := by
  induction n using Nat.strongRecOn generalizing k with
  | ind n ih =>
    have inside (k : Phrase) (m : Nat) (hm : n = m + 1) : Sound k m (reader (inner m) k) :=
      ih m (hm ▸ Nat.lt_succ_self m) k
    have hprimary : Sound .primary n (reader (inner n) .primary) := sound_primary (inside .disjunction)
    have hunary : Sound .unary n (reader (inner n) .unary) := sound_unary hprimary (inside .unary)
    have chained {k : Phrase} (hk : k.isChain) (hp : Sound k.operand n (reader (inner n) k.operand)) :
        Sound k n (reader (inner n) k) := reader_chain hk ▸ sound_chain hk hp
    have hproduct : Sound .product n (reader (inner n) .product) := chained rfl hunary
    have hsum : Sound .sum n (reader (inner n) .sum) := chained rfl hproduct
    have hcomparison : Sound .comparison n (reader (inner n) .comparison) := sound_comparison hsum
    have hnegation : Sound .negation n (reader (inner n) .negation) :=
      sound_negation hcomparison (inside .negation)
    have hconjunction : Sound .conjunction n (reader (inner n) .conjunction) := chained rfl hnegation
    cases k with
    | disjunction => exact chained rfl hconjunction
    | _ => assumption

end Parser

end RecordGate
