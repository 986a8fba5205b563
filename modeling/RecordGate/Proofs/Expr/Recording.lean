import RecordGate.Proofs.Expr.Calls

/-!
# Evaluation over any record of the file

`unique` alone looks at the state of the file, and only to record a tuple. `Expr.evalWith` evaluates over
whatever can do that (`Recorder`); over the state of a file it is `Expr.eval` (`Expr.eval_eq`). Two states
that are related before an evaluation and stay related under the calls of `unique` in the expression are
related after it, and the results are the same (`Expr.sim_evalWith`). What evaluation keeps of one state is
the case of a state that is related to itself (`Expr.holdsWith_keeps`).
-/

namespace RecordGate

/-- What evaluation needs of a state: the processing date, and to record a tuple at a call. -/
structure Recorder (σ : Type) where
  asOf : σ → Date
  record : (site : Nat) → List Value → σ → Bool × σ

/-- A rule records tuples in the state of a file under its id. -/
def FileState.recorder (ruleId : String) : Recorder FileState :=
  ⟨FileState.asOf, fun site values s => s.record ruleId site values⟩

/-- Evaluation over a state. -/
abbrev EvalWith (σ : Type) := ExceptT EvalError (StateM σ)

namespace Expr

variable {σ τ : Type}

mutual

/-- The value of an expression on a row, over a state that can record. -/
def evalWith (k : Recorder σ) (row : Record Value) : Expr → EvalWith σ Value
  | .literal v => pure v
  | .field name _ =>
    match row.get? name with
    | some v => pure v
    | none => throw (.missingField name)
  | .unary op e _ => do
    let v ← evalWith k row e
    liftExcept (applyUnary op v)
  | .binary op l r _ => do
    let a ← evalWith k row l
    if op.isLogical then
      let settled := op = .or
      if (← liftExcept (asBool (.binary op) a)) = settled then return .bool settled
      let b ← evalWith k row r
      return .bool (← liftExcept (asBool (.binary op) b))
    else
      let b ← evalWith k row r
      liftExcept (applyBinary op a b)
  | .call f args site _ => do
    let values ← evalArgsWith k row args
    if f = .unique then
      modifyGet fun s =>
        let (fresh, s) := k.record site values s
        (.bool fresh, s)
    else liftExcept (applyFunction (k.asOf (← get)) f values)

/-- The values of several expressions, from left to right. -/
def evalArgsWith (k : Recorder σ) (row : Record Value) : List Expr → EvalWith σ (List Value)
  | [] => pure []
  | e :: rest => do
    let v ← evalWith k row e
    let vs ← evalArgsWith k row rest
    return v :: vs

end

theorem evalArgs_eq {ruleId : String} {row : Record Value} {args : List Expr}
    (h : ∀ e ∈ args, eval ruleId row e = evalWith (FileState.recorder ruleId) row e) :
    evalArgs ruleId row args = evalArgsWith (FileState.recorder ruleId) row args := by
  induction args with
  | nil => rfl
  | cons e rest ih =>
    obtain ⟨first, others⟩ := List.forall_mem_cons.mp h
    rw [evalArgs, evalArgsWith, first, ih others]

/-- Over the state of a file, evaluation is evaluation. -/
theorem eval_eq (ruleId : String) (row : Record Value) (e : Expr) :
    eval ruleId row e = evalWith (FileState.recorder ruleId) row e := by
  induction e with
  | literal => rfl
  | field => rfl
  | unary _ _ _ ih => rw [eval, evalWith, ih]
  | binary _ _ _ _ ihl ihr => rw [eval, evalWith, ihl, ihr]
  | call _ _ _ _ ih =>
    rw [eval, evalWith, evalArgs_eq ih]
    rfl

/-- Whether a predicate holds on a row, with the state afterwards. -/
def holdsWith (k : Recorder σ) (e : Expr) (row : Record Value) (s : σ) : Except EvalError Bool × σ :=
  let (result, s) := (evalWith k row e).run s
  match result with
  | .ok (.bool b) => (.ok b, s)
  | .ok v => (.error (.notBoolean v.kind), s)
  | .error e => (.error e, s)

theorem holds_eq (ruleId : String) (e : Expr) (row : Record Value) (file : FileState) :
    e.holds ruleId row file = e.holdsWith (FileState.recorder ruleId) row file := by
  rw [holds, holdsWith, eval_eq]
  rfl

end Expr

/-! ## Computations over related states -/

section Sim

variable {σ τ α β : Type} {R : σ → τ → Prop}

/-- A computation can give a value. -/
def CanGive (m : EvalWith σ α) (a : α) : Prop := ∃ s s', m.run s = (.ok a, s')

/-- From related states both computations give the same result and related states. -/
def Sim (R : σ → τ → Prop) (m : EvalWith σ α) (n : EvalWith τ α) : Prop :=
  ∀ s t, R s t → (m.run s).1 = (n.run t).1 ∧ R (m.run s).2 (n.run t).2

theorem Sim.pure (a : α) : Sim R (Pure.pure a) (Pure.pure a) := fun _ _ h => ⟨rfl, h⟩

theorem Sim.throw (e : EvalError) : Sim (α := α) R (MonadExcept.throw e) (MonadExcept.throw e) := fun _ _ h => ⟨rfl, h⟩

theorem Sim.lift (x : Except EvalError α) : Sim R (liftExcept x) (liftExcept x) := by
  intro s t h
  cases x with
  | ok a => exact ⟨rfl, h⟩
  | error e => exact ⟨rfl, h⟩

theorem Sim.bind {m : EvalWith σ α} {n : EvalWith τ α} {f : α → EvalWith σ β} {g : α → EvalWith τ β}
    (first : Sim R m n) (next : ∀ a, CanGive m a → Sim R (f a) (g a)) : Sim R (m >>= f) (n >>= g) := by
  intro s t related
  obtain ⟨same, after⟩ := first s t related
  cases left : m.run s with
  | mk result s' =>
    cases right : n.run t with
    | mk result' t' =>
      rw [left, right] at same after
      subst same
      cases result with
      | ok a =>
        rw [run_bind_of_run_ok left, run_bind_of_run_ok right]
        exact next a ⟨s, s', left⟩ s' t' after
      | error e =>
        rw [run_bind_of_run_error left, run_bind_of_run_error right]
        exact ⟨rfl, after⟩

theorem Sim.get_bind {f : σ → EvalWith σ α} {g : τ → EvalWith τ α} (next : ∀ s t, R s t → Sim R (f s) (g t)) :
    Sim R (get >>= f) (get >>= g) := fun s t related => next s t related s t related

end Sim

namespace Expr

section

variable {σ τ : Type} {R : σ → τ → Prop} {k : Recorder σ} {m : Recorder τ} {row : Record Value}

/-- The recorders agree on a call of `unique` from related states, whatever its arguments can give. -/
def Matched (R : σ → τ → Prop) (k : Recorder σ) (m : Recorder τ) (row : Record Value) (c : CallNode) : Prop :=
  c.function = .unique → ∀ values, CanGive (evalArgsWith k row c.args) values → ∀ s t, R s t →
    (k.record c.site values s).1 = (m.record c.site values t).1 ∧
      R (k.record c.site values s).2 (m.record c.site values t).2

theorem sim_evalArgsWith {args : List Expr} (h : ∀ e ∈ args, Sim R (evalWith k row e) (evalWith m row e)) :
    Sim R (evalArgsWith k row args) (evalArgsWith m row args) := by
  induction args with
  | nil => exact .pure []
  | cons e rest ih =>
    obtain ⟨first, others⟩ := List.forall_mem_cons.mp h
    rw [evalArgsWith, evalArgsWith]
    exact first.bind fun v _ => (ih others).bind fun vs _ => .pure (v :: vs)

/--
**Evaluation keeps states related.** It reads nothing of a state but the date, and changes nothing but by
recording the tuples of the calls of `unique`.
-/
theorem sim_evalWith (dates : ∀ s t, R s t → k.asOf s = m.asOf t) {e : Expr} (h : ∀ c ∈ e.calls, Matched R k m row c) :
    Sim R (evalWith k row e) (evalWith m row e) := by
  induction e with
  | literal v => exact .pure v
  | field name =>
    rw [evalWith, evalWith]
    cases row.get? name with
    | some v => exact .pure v
    | none => exact .throw _
  | unary op e _ ih =>
    rw [evalWith, evalWith]
    exact (ih h).bind fun v _ => .lift _
  | binary op l r _ ihl ihr =>
    have left := ihl fun c hc => h c (List.mem_append_left _ hc)
    have right := ihr fun c hc => h c (List.mem_append_right _ hc)
    rw [evalWith, evalWith]
    refine left.bind fun a _ => ?_
    split
    -- The left operand may settle the result: then neither side evaluates the right one.
    · refine (Sim.lift _).bind fun t _ => ?_
      split
      · exact .pure _
      · exact right.bind fun b _ => (Sim.lift _).bind fun t _ => .pure _
    · exact right.bind fun b _ => .lift _
  | call f args site _ ih =>
    have inside : Sim R (evalArgsWith k row args) (evalArgsWith m row args) :=
      sim_evalArgsWith fun e he => ih e he fun c hc => h c (mem_calls_call.mpr (.inl ⟨e, he, hc⟩))
    rw [evalWith, evalWith]
    refine inside.bind fun values given => ?_
    split
    · next unique =>
      intro s t related
      obtain ⟨same, after⟩ := h ⟨f, args, site⟩ (mem_calls_call.mpr (.inr rfl)) unique values given s t related
      exact ⟨congrArg (fun fresh => Except.ok (Value.bool fresh)) same, after⟩
    · refine Sim.get_bind fun s t related => ?_
      rw [dates s t related]
      exact .lift _

theorem holdsWith_sim {e : Expr} (h : Sim R (evalWith k row e) (evalWith m row e)) {s : σ} {t : τ} (related : R s t) :
    (e.holdsWith k row s).1 = (e.holdsWith m row t).1 ∧ R (e.holdsWith k row s).2 (e.holdsWith m row t).2 := by
  obtain ⟨same, after⟩ := h s t related
  unfold holdsWith
  cases left : (evalWith k row e).run s with
  | mk result s' =>
    cases right : (evalWith m row e).run t with
    | mk result' t' =>
      rw [left, right] at same after
      subst same
      cases result with
      | error e => exact ⟨rfl, after⟩
      | ok v =>
        cases v with
        | bool | null | number | text | date | timestamp => exact ⟨rfl, after⟩

/-- What recording keeps of a state, judging a predicate keeps. -/
theorem holdsWith_keeps {P : σ → Prop} {e : Expr}
    (h : ∀ c ∈ e.calls, c.function = .unique → ∀ values, CanGive (evalArgsWith k row c.args) values →
      ∀ s, P s → P (k.record c.site values s).2) {s : σ} (hs : P s) : P (e.holdsWith k row s).2 := by
  have sim : Sim (fun s t => s = t ∧ P s) (evalWith k row e) (evalWith k row e) := by
    refine sim_evalWith (fun s t same => same.1 ▸ rfl) fun c hc unique values given s t same => ?_
    obtain ⟨rfl, hs⟩ := same
    exact ⟨rfl, rfl, h c hc unique values given s hs⟩
  exact (holdsWith_sim sim ⟨rfl, hs⟩).2.2

end

/-! ## Predicates without `unique` -/

variable {ruleId : String} {e : Expr} {row : Record Value} {file : FileState}

/-- A predicate that is not stateful leaves the file as it is. -/
theorem holds_of_not_stateful (h : e.isStateful = false) : (e.holds ruleId row file).2 = file := by
  have none (c : CallNode) (hc : c ∈ e.calls) (unique : c.function = .unique) : False :=
    Bool.false_ne_true (h.symm.trans (isStateful_iff.mpr ⟨c, hc, unique⟩))
  rw [holds_eq]
  exact holdsWith_keeps (P := (· = file)) (fun c hc unique => (none c hc unique).elim) rfl

end Expr

end RecordGate
