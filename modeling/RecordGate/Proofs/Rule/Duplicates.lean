import Mathlib.Data.List.Forall2
import RecordGate.Proofs.Expr.Equality
import RecordGate.Proofs.Expr.Recording

/-!
# What `unique` answers

To speak of every evaluation of `unique` in a file, the rows are judged over a state that also keeps a
record of them (`Traced`). It judges every row as the state of the file does (`Traced.judgeAll_erases`).

A tuple is answered to be a duplicate exactly when the same call of the same rule met a tuple before in
which every value is equal to its counterpart and, if it is a number, of the same sign and scale
(`Traced.duplicates_exact`). The second condition is not void: the operator `==` holds 1.5 and 1.50 to be
equal, and `unique` does not (`Traced.duplicate_missed_by_scale`).
-/

namespace RecordGate

/-- One evaluation of `unique`, and its answer. -/
structure UniqueCall where
  ruleId : String
  site : Nat
  values : List Value
  fresh : Bool
deriving DecidableEq

/-- The state of a file with the evaluations of `unique` that led to it. -/
structure Traced where
  file : FileState
  calls : List UniqueCall

/-- Judges rules on rows, one after the other. -/
def FileState.judgeAll : List (CompiledRule × Record Value) → FileState → List (Except EvalError Bool) × FileState
  | [], file => ([], file)
  | (c, row) :: rest, file =>
    let (result, file) := c.judge row file
    let (results, file) := judgeAll rest file
    (result :: results, file)

namespace Traced

/-- Before the first row. -/
def start (asOf : Date) : Traced := ⟨.start asOf, []⟩

/-- A rule records tuples under its id, and the answer is kept. -/
def recorder (ruleId : String) : Recorder Traced where
  asOf t := t.file.asOf
  record site values t :=
    let (fresh, file) := t.file.record ruleId site values
    (fresh, ⟨file, t.calls ++ [⟨ruleId, site, values, fresh⟩]⟩)

/-- Judges rules on rows, one after the other. -/
def judgeAll : List (CompiledRule × Record Value) → Traced → List (Except EvalError Bool) × Traced
  | [], t => ([], t)
  | (c, row) :: rest, t =>
    let (result, t) := c.predicate.holdsWith (recorder c.id) row t
    let (results, t) := judgeAll rest t
    (result :: results, t)

/-- Keeping the evaluations changes no judgement and no state of the file. -/
theorem judgeAll_erases (steps : List (CompiledRule × Record Value)) (t : Traced) :
    (judgeAll steps t).1 = (FileState.judgeAll steps t.file).1 ∧
      (judgeAll steps t).2.file = (FileState.judgeAll steps t.file).2 := by
  induction steps generalizing t with
  | nil => exact ⟨rfl, rfl⟩
  | cons step rest ih =>
    obtain ⟨c, row⟩ := step
    have sim : Sim (fun (t : Traced) file => t.file = file) (c.predicate.evalWith (recorder c.id) row)
        (c.predicate.evalWith (FileState.recorder c.id) row) := by
      refine Expr.sim_evalWith (fun t file same => same ▸ rfl) fun node _ _ values _ t file same => ?_
      subst same
      exact ⟨rfl, rfl⟩
    obtain ⟨result, file⟩ := Expr.holdsWith_sim sim (s := t) rfl
    obtain ⟨results, last⟩ := ih (c.predicate.holdsWith (recorder c.id) row t).2
    rw [file, ← Expr.holds_eq] at results last
    rw [← Expr.holds_eq] at result
    exact ⟨congr (congrArg _ result) results, last⟩

end Traced

/-! ## Where an evaluation stands -/

/-- The expression is a field, and this is what the row holds in it. -/
def Expr.IsField (row : Record Value) (e : Expr) (v : Value) : Prop :=
  ∃ name pos, e = .field name pos ∧ row.get? name = some v

/-- Fields are evaluated to what the row holds in them. -/
theorem Expr.forall₂_of_canGive {σ : Type} {k : Recorder σ} {schema : Schema} {row : Record Value} {args : List Expr}
    (declared : ∀ e ∈ args, IsDeclared schema e) {values : List Value}
    (given : CanGive (evalArgsWith k row args) values) : List.Forall₂ (IsField row) args values := by
  induction args generalizing values with
  | nil =>
    obtain ⟨s, s', h⟩ := given
    cases h
    exact .nil
  | cons e rest ih =>
    obtain ⟨⟨f, -, pos, rfl⟩, others⟩ := List.forall_mem_cons.mp declared
    obtain ⟨s, s', h⟩ := given
    rw [evalArgsWith, evalWith] at h
    cases held : row.get? f.name with
    | none =>
      rw [held] at h
      cases h
    | some v =>
      rw [held, pure_bind] at h
      cases run : (evalArgsWith k row rest).run s with
      | mk result t =>
        cases result with
        | error e =>
          rw [run_bind_of_run_error run] at h
          cases h
        | ok vs =>
          rw [run_bind_of_run_ok run] at h
          cases h
          exact .cons ⟨f.name, pos, rfl, held⟩ (ih others ⟨s, _, run⟩)

namespace UniqueCall

/-- The key under which the tuple is recorded. -/
def key (c : UniqueCall) : String := FileState.key c.ruleId c.site c.values

/-- The evaluation is one of a call of `unique` in a rule, on a row that the rule was judged on. -/
def IsOf (steps : List (CompiledRule × Record Value)) (c : UniqueCall) : Prop :=
  ∃ step ∈ steps, step.1.id = c.ruleId ∧ ∃ node ∈ step.1.predicate.calls, node.function = .unique ∧
    node.site = c.site ∧ List.Forall₂ (Expr.IsField step.2) node.args c.values

end UniqueCall

/-! ## The record of the evaluations -/

namespace Traced

/-- The record agrees with the keys that the file has met, and every answer with the record before it. -/
structure Consistent (steps : List (CompiledRule × Record Value)) (t : Traced) : Prop where
  met : ∀ ruleId site values, t.file.Met ruleId site values ↔
    ∃ d ∈ t.calls, d.key = FileState.key ruleId site values
  isOf : ∀ c ∈ t.calls, c.IsOf steps
  answers : ∀ before c, before ++ [c] <+: t.calls → (c.fresh = false ↔ ∃ d ∈ before, d.key = c.key)

theorem consistent_start (steps : List (CompiledRule × Record Value)) (asOf : Date) :
    (start asOf).Consistent steps where
  met _ _ _ := ⟨fun met => absurd met FileState.not_met_start, nofun⟩
  isOf := nofun
  answers before c h := by
    have : before ++ [c] = [] := List.prefix_nil.mp h
    simp at this

/-- One evaluation more. -/
theorem Consistent.record {steps : List (CompiledRule × Record Value)} {t : Traced} (h : t.Consistent steps)
    {ruleId : String} {site : Nat} {values : List Value}
    (isOf : ∀ fresh, UniqueCall.IsOf steps ⟨ruleId, site, values, fresh⟩) :
    (((recorder ruleId).record site values t).2).Consistent steps where
  met r s vs := by
    change FileState.Met (t.file.record ruleId site values).2 r s vs ↔ _
    rw [FileState.met_record, h.met]
    simp only [recorder, List.mem_append, List.mem_singleton, or_and_right, exists_or, exists_eq_left]
    exact or_comm
  isOf c hc := by
    rcases List.mem_append.mp hc with hc | hc
    · exact h.isOf c hc
    · exact List.mem_singleton.mp hc ▸ isOf _
  answers before c hc := by
    rcases List.prefix_concat_iff.mp hc with whole | earlier
    · obtain ⟨rfl, same⟩ := List.append_inj' whole rfl
      obtain ⟨rfl, -⟩ := List.cons.inj same
      change (t.file.record ruleId site values).1 = false ↔ _
      rw [FileState.record_fresh, h.met]
      rfl
    · exact h.answers before c earlier

/-- The record stays consistent when more rows are judged. -/
theorem Consistent.judgeAll {schema : Schema} {steps done : List (CompiledRule × Record Value)} {t : Traced}
    (h : t.Consistent steps)
    (typed : ∀ step ∈ steps, ∃ type, Expr.HasType schema step.1.predicate type) (mem : ∀ step ∈ done, step ∈ steps) :
    ((judgeAll done t).2).Consistent steps := by
  induction done generalizing t with
  | nil => exact h
  | cons step rest ih =>
    obtain ⟨first, others⟩ := List.forall_mem_cons.mp mem
    obtain ⟨type, hasType⟩ := typed step first
    refine ih (Expr.holdsWith_keeps (fun node hnode unique values given s hs => ?_) h) others
    refine hs.record fun fresh => ⟨step, first, rfl, node, hnode, unique, rfl, ?_⟩
    exact Expr.forall₂_of_canGive (hasType.args_declared hnode unique) given

end Traced

/-! ## Tuples with one key -/

/-- The values are equal, position by position, and numbers also have the same sign and scale. -/
def SameTuple (vs ws : List Value) : Prop := List.Forall₂ (fun v w => v.Equals w ∧ v.form? = w.form?) vs ws

/-- Tuples of values of the same fields have the same components when they are equal and of one form. -/
theorem map_component_eq_iff {vs ws : List Value}
    (h : List.Forall₂ (fun v w : Value => ∃ type, v.IsOf type ∧ w.IsOf type) vs ws) :
    vs.map FileState.component = ws.map FileState.component ↔ SameTuple vs ws := by
  rw [SameTuple]
  induction h with
  | nil => exact ⟨fun _ => .nil, fun _ => rfl⟩
  | cons first _ ih =>
    obtain ⟨type, hv, hw⟩ := first
    rw [List.map_cons, List.map_cons, List.cons.injEq, List.forall₂_cons, ih, Value.component_eq_iff_equals hv hw]

/-- Two rows hold values of the same fields in the arguments of a call. -/
theorem forall₂_isOf {schema : Schema} {row row' : Record Value} {args : List Expr} {vs ws : List Value}
    (declared : ∀ e ∈ args, Expr.IsDeclared schema e)
    (values : ∀ f ∈ schema.fields, ∃ v, row.get? f.name = some v ∧ v.IsOf f.type)
    (values' : ∀ f ∈ schema.fields, ∃ v, row'.get? f.name = some v ∧ v.IsOf f.type)
    (hv : List.Forall₂ (Expr.IsField row) args vs) (hw : List.Forall₂ (Expr.IsField row') args ws) :
    List.Forall₂ (fun v w : Value => ∃ type, v.IsOf type ∧ w.IsOf type) vs ws := by
  induction args generalizing vs ws with
  | nil =>
    cases hv
    cases hw
    exact .nil
  | cons e rest ih =>
    obtain ⟨⟨f, hf, pos, rfl⟩, others⟩ := List.forall_mem_cons.mp declared
    have held {row : Record Value} {v : Value} (values : ∃ v, row.get? f.name = some v ∧ v.IsOf f.type)
        (h : Expr.IsField row (.field f.name pos) v) : v.IsOf f.type := by
      obtain ⟨u, hu, isOf⟩ := values
      obtain ⟨name, _, same, hv⟩ := h
      cases same
      rw [hu] at hv
      exact Option.some.inj hv ▸ isOf
    cases hv with
    | cons first hv =>
      cases hw with
      | cons first' hw =>
        exact .cons ⟨f.type, held (values f hf) first, held (values' f hf) first'⟩ (ih others hv hw)

section Checked

variable {schema : Schema} {steps : List (CompiledRule × Record Value)}

/-- Two evaluations have one key when they are of one call of one rule and about the same tuple. -/
theorem UniqueCall.key_eq_iff
    (values : ∀ step ∈ steps, ∀ f ∈ schema.fields, ∃ v, step.2.get? f.name = some v ∧ v.IsOf f.type)
    (typed : ∀ step ∈ steps, ∃ type, Expr.HasType schema step.1.predicate type)
    (numbered : ∀ step ∈ steps, step.1.predicate.sites.Nodup)
    (sameRule : ∀ s ∈ steps, ∀ t ∈ steps, s.1.id = t.1.id → s.1 = t.1) {c d : UniqueCall} (hc : c.IsOf steps)
    (hd : d.IsOf steps) :
    d.key = c.key ↔ d.ruleId = c.ruleId ∧ d.site = c.site ∧ SameTuple d.values c.values := by
  rw [key, key, FileState.key_eq_iff]
  refine and_congr_right fun rule => and_congr_right fun site => ?_
  obtain ⟨s, hs, ids, node, hnode, unique, sites, fields⟩ := hc
  obtain ⟨t, ht, idt, node', hnode', -, sitet, fields'⟩ := hd
  -- The numbers tell the calls of a rule apart, so both tuples are values of the same fields.
  have rules : t.1 = s.1 := sameRule t ht s hs (by rw [idt, ids, rule])
  rw [rules] at hnode'
  have nodes : node' = node :=
    List.inj_on_of_nodup_map (numbered s hs) hnode' hnode (by rw [sitet, sites, site])
  rw [nodes] at fields'
  obtain ⟨type, hasType⟩ := typed s hs
  have pairs := forall₂_isOf (hasType.args_declared hnode unique) (values t ht) (values s hs) fields' fields
  rw [FileState.tupleChars_inj pairs.length_eq, map_component_eq_iff pairs]

end Checked

/--
**What `unique` answers.** Rules compiled against a consistent schema are judged on checked rows of one
file, in any order; rules of one id are one rule. Every evaluation of `unique` on the way is one of a call
with a number of its own, and it is false exactly when an earlier evaluation of the same call of the same
rule was about the same tuple: equal values, with numbers of the same sign and scale.
-/
theorem Traced.duplicates_exact {engine : Pattern.Engine} {schema : Schema} (hs : schema.consistent? engine = .ok ())
    (asOf : Date) (steps : List (CompiledRule × RawRow))
    (compiled : ∀ step ∈ steps, ∃ r : Rule, r.compile schema = .ok step.1)
    (sameRule : ∀ s ∈ steps, ∀ t ∈ steps, s.1.id = t.1.id → s.1 = t.1) :
    let checked := steps.map fun step => (step.1, (schema.check engine step.2 asOf).values)
    let run := Traced.judgeAll checked (.start asOf)
    (run.1, run.2.file) = FileState.judgeAll checked (.start asOf) ∧
      (∀ step ∈ steps, step.1.predicate.sites.Nodup) ∧
      (∀ c ∈ run.2.calls, c.IsOf checked) ∧
      ∀ before c, before ++ [c] <+: run.2.calls →
        (c.fresh = false ↔
          ∃ d ∈ before, d.ruleId = c.ruleId ∧ d.site = c.site ∧ SameTuple d.values c.values) := by
  intro checked run
  have numbered (step : CompiledRule × RawRow) (h : step ∈ steps) : step.1.predicate.sites.Nodup := by
    obtain ⟨r, hr⟩ := compiled step h
    exact Rule.nodup_sites hr
  have typed : ∀ step ∈ checked, ∃ type, Expr.HasType schema step.1.predicate type := by
    refine List.forall_mem_map.mpr fun step h => ?_
    obtain ⟨r, hr⟩ := compiled step h
    exact ⟨.boolean, Rule.hasType_predicate hr⟩
  have values : ∀ step ∈ checked, ∀ f ∈ schema.fields, ∃ v, step.2.get? f.name = some v ∧ v.IsOf f.type :=
    List.forall_mem_map.mpr fun step _ => Schema.check_isOf hs step.2 asOf
  have sameRule : ∀ s ∈ checked, ∀ t ∈ checked, s.1.id = t.1.id → s.1 = t.1 :=
    List.forall_mem_map.mpr fun s h => List.forall_mem_map.mpr fun t h' => sameRule s h t h'
  have consistent : run.2.Consistent checked :=
    (Traced.consistent_start checked asOf).judgeAll typed fun _ h => h
  obtain ⟨results, file⟩ := Traced.judgeAll_erases checked (.start asOf)
  refine ⟨Prod.ext results file, numbered, consistent.isOf, fun before c h => ?_⟩
  rw [consistent.answers before c h]
  have within : ∀ d ∈ before ++ [c], d ∈ run.2.calls := fun d hd => h.subset hd
  have hc : c.IsOf checked := consistent.isOf c (within c (List.mem_append_right _ (List.mem_singleton_self c)))
  refine exists_congr fun d => and_congr_right fun hd => ?_
  exact UniqueCall.key_eq_iff values typed (List.forall_mem_map.mpr numbered) sameRule hc
    (consistent.isOf d (within d (List.mem_append_left _ hd)))

/-- The third row repeats the first: the second has another region. -/
theorem Traced.duplicates_exact_third_row :
    let engine : Pattern.Engine := .common
    let schema : Schema := ⟨.sales, [⟨"amount", .decimal, true, []⟩, ⟨"region", .text, false, []⟩], .empty⟩
    let rule : Rule := ⟨"R1", .sales, .business, "amount > 100 OR unique(amount, region)", .critical, "", true, 0,
      "", none, none⟩
    let row (index : Nat) (region : Cell) : RawRow := ⟨index, .ofList [("amount", .text "1.5"), ("region", region)]⟩
    ∃ c, schema.consistent? engine = .ok () ∧ rule.compile schema = .ok c ∧
      ∃ first second third, (Traced.judgeAll ([row 1 .null, row 2 (.text "x"), row 3 .null].map fun row =>
          (c, (schema.check engine row .epoch).values)) (.start .epoch)).2.calls = [first, second, third] ∧
        (third.fresh = false ↔ ∃ d ∈ [first, second],
          d.ruleId = third.ruleId ∧ d.site = third.site ∧ SameTuple d.values third.values) := by
  intro engine schema rule row
  have consistent : schema.consistent? engine = .ok () := rfl
  have compiles : ((rule.compile schema).toOption.any fun c =>
      (Traced.judgeAll ([row 1 .null, row 2 (.text "x"), row 3 .null].map fun row =>
        (c, (schema.check engine row .epoch).values)) (.start .epoch)).2.calls.length == 3) = true := by decide +kernel
  cases compiled : rule.compile schema with
  | error e =>
    rw [compiled] at compiles
    cases compiles
  | ok c =>
    rw [compiled] at compiles
    obtain ⟨first, second, third, calls⟩ := List.length_eq_three.mp (beq_iff_eq.mp compiles)
    have found := Traced.duplicates_exact consistent .epoch
      ([row 1 .null, row 2 (.text "x"), row 3 .null].map fun row => (c, row))
      (List.forall_mem_map.mpr fun _ _ => ⟨rule, compiled⟩)
      (List.forall_mem_map.mpr fun _ _ => List.forall_mem_map.mpr fun _ _ _ => rfl)
    exact ⟨c, consistent, rfl, first, second, third, calls,
      found.2.2.2 [first, second] third (calls ▸ List.prefix_rfl)⟩

/-- The amounts of both rows are equal, and the second is held to be new. -/
theorem Traced.duplicate_missed_by_scale :
    let engine : Pattern.Engine := .common
    let schema : Schema := ⟨.sales, [⟨"amount", .decimal, true, []⟩], .empty⟩
    let rule : Rule := ⟨"R1", .sales, .business, "unique(amount)", .critical, "", true, 0, "", none, none⟩
    let row (index : Nat) (amount : String) : RawRow := ⟨index, .ofList [("amount", .text amount)]⟩
    ∃ c, schema.consistent? engine = .ok () ∧ rule.compile schema = .ok c ∧
      ∃ first second, (Traced.judgeAll ([row 1 "1.5", row 2 "1.50"].map fun row =>
          (c, (schema.check engine row .epoch).values)) (.start .epoch)).2.calls = [first, second] ∧
        first.ruleId = second.ruleId ∧ first.site = second.site ∧
        List.Forall₂ Value.Equals first.values second.values ∧ second.fresh = true := by
  intro engine schema rule row
  let half (mantissa scale : Nat) (h : mantissa ≤ Decimal.maxMantissa ∧ scale ≤ Decimal.maxScale) : List Value :=
    [.number ⟨false, mantissa, scale, h.1, h.2⟩]
  have recorded : ((rule.compile schema).toOption.any fun c =>
      (Traced.judgeAll ([row 1 "1.5", row 2 "1.50"].map fun row =>
          (c, (schema.check engine row .epoch).values)) (.start .epoch)).2.calls.map (fun call =>
            (call.ruleId, call.site, call.values)) =
        [("R1", 0, half 15 1 (by decide)), ("R1", 0, half 150 2 (by decide))]) = true := by decide +kernel
  cases compiled : rule.compile schema with
  | error e =>
    rw [compiled] at recorded
    cases recorded
  | ok c =>
    rw [compiled] at recorded
    obtain ⟨first, rest, calls, one, others⟩ := List.map_eq_cons_iff.mp (of_decide_eq_true recorded)
    obtain ⟨second, rfl, two⟩ := List.map_eq_singleton_iff.mp others
    simp only [Prod.mk.injEq] at one two
    obtain ⟨ruleId, site, values⟩ := one
    obtain ⟨ruleId', site', values'⟩ := two
    have consistent := (Traced.consistent_start _ .epoch).judgeAll
      (List.forall_mem_map.mpr fun _ _ => ⟨.boolean, Rule.hasType_predicate compiled⟩)
      fun _ (h : _ ∈ [row 1 "1.5", row 2 "1.50"].map fun row => (c, (schema.check engine row .epoch).values)) => h
    have keys : first.key ≠ second.key := by
      rw [UniqueCall.key, UniqueCall.key, ruleId, site, values, ruleId', site', values']
      decide +kernel
    have fresh : second.fresh ≠ false := fun stale => by
      obtain ⟨d, hd, same⟩ := (consistent.answers [first] second (calls ▸ List.prefix_rfl)).mp stale
      exact keys (List.mem_singleton.mp hd ▸ same)
    have equal : List.Forall₂ Value.Equals first.values second.values := by
      rw [values, values']
      decide +kernel
    exact ⟨c, rfl, rfl, first, second, calls, ruleId.trans ruleId'.symm, site.trans site'.symm, equal,
      by simpa using fresh⟩

end RecordGate
